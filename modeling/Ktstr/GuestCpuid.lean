import Ktstr.ApicIds
import Ktstr.Library.Fallible
import Mathlib.Tactic.IntervalCases

/-! What a guest reads off its CPUID tables about the cores and caches of its vCPUs. -/
namespace Ktstr.GuestCpuid
open List Library.Fallible Source.VmTopology Source.Cpuid ApicIds Nat

def SameLlc (topo : Topology) (first second : Nat) : Prop :=
  (topo.decompose first).1 = (topo.decompose second).1

def SameCore (topo : Topology) (first second : Nat) : Prop :=
  SameLlc topo first second ∧ (topo.decompose first).2.1 = (topo.decompose second).2.1

/-- The id in EDX, shifted by the width that EAX has in its low five bits. -/
def domainId (entry : KvmCpuidEntry2) : Nat := entry.edx.toNat >>> (entry.eax.toNat % 32)

/-- The width of an id among the threads that share a cache, from EAX[25:14]. -/
def sharingWidth (entry : KvmCpuidEntry2) : Nat := bitsNeeded (((entry.eax >>> 14) &&& 0xfff).toNat + 1)

def IsCacheLeaf (vendor : CpuVendor) (entry : KvmCpuidEntry2) : Prop :=
  entry.function = 0x4 ∧ vendor = .intel ∨ entry.function = 0x8000001d ∧ vendor = .amd

/-- Ids in order, and tables for every vCPU from which a guest finds cores, LLCs and shared caches. -/
structure Decodes (topo : Topology) : Prop where
  increasing : ∀ first second, first < second → second < topo.totalCpus → apicId topo first < apicId topo second
  bounded : ∀ cpuId < topo.totalCpus, apicId topo cpuId ≤ maxApicId topo
  attained : 0 < topo.totalCpus → ∃ cpuId < topo.totalCpus, apicId topo cpuId = maxApicId topo
  produced : ∀ baseCpuid performanceMode, ∀ cpuId < topo.totalCpus,
    ∃ entries, generateCpuid baseCpuid topo cpuId performanceMode = some entries
  cores : ∀ baseCpuid performanceMode, ∀ first < topo.totalCpus, ∀ second < topo.totalCpus, ∀ entries others,
    generateCpuid baseCpuid topo first performanceMode = some entries →
    generateCpuid baseCpuid topo second performanceMode = some others →
    ∀ entry ∈ entries, ∀ other ∈ others, entry.function = other.function → entry.function = 0xb ∨ entry.function = 0x1f →
      entry.index = 0 → other.index = 0 → (domainId entry = domainId other ↔ SameCore topo first second)
  llcs : ∀ baseCpuid performanceMode, ∀ first < topo.totalCpus, ∀ second < topo.totalCpus, ∀ entries others,
    generateCpuid baseCpuid topo first performanceMode = some entries →
    generateCpuid baseCpuid topo second performanceMode = some others →
    ∀ entry ∈ entries, ∀ other ∈ others, entry.function = other.function → entry.function = 0xb ∨ entry.function = 0x1f →
      entry.index = 1 → other.index = 1 → (domainId entry = domainId other ↔ SameLlc topo first second)
  shared : coreShift topo ≤ 12 → ∀ baseCpuid performanceMode, ∀ first < topo.totalCpus, ∀ second < topo.totalCpus,
    ∀ entries, generateCpuid baseCpuid topo first performanceMode = some entries →
    ∀ entry ∈ entries, IsCacheLeaf (detectVendor baseCpuid) entry → cacheLevel entry = 3 →
      (apicId topo first >>> sharingWidth entry = apicId topo second >>> sharingWidth entry ↔ SameLlc topo first second)

structure Numbered (topo : Topology) : Prop where
  llcs : 0 < topo.llcs
  cores : 0 < topo.coresPerLlc
  threads : 0 < topo.threadsPerCore
  total : topo.totalCpus = topo.llcs * (topo.threadsPerCore * topo.coresPerLlc)
  fits : topo.llcs * (topo.threadsPerCore * topo.coresPerLlc) < u32Span
  narrow : bitsNeeded topo.llcs + coreShift topo ≤ 32

theorem numbered {topo : Topology} (narrow : bitsNeeded topo.llcs + coreShift topo ≤ 32)
    (some : topo.totalCpus ≠ 0) : Numbered topo := by
  have wrapped : topo.totalCpus = topo.llcs * (topo.threadsPerCore * topo.coresPerLlc) % u32Span := by
    rw [Topology.totalCpus,wrapU32,wrapU32,Nat.mod_mul_mod,Nat.mul_assoc,Nat.mul_comm topo.coresPerLlc]
  have bound : topo.llcs * (topo.threadsPerCore * topo.coresPerLlc) ≤ u32Span := by
    calc topo.llcs * (topo.threadsPerCore * topo.coresPerLlc)
        ≤ 2 ^ bitsNeeded topo.llcs * (2 ^ bitsNeeded topo.threadsPerCore * 2 ^ bitsNeeded topo.coresPerLlc) :=
          Nat.mul_le_mul (le_pow_bitsNeeded _) (Nat.mul_le_mul (le_pow_bitsNeeded _) (le_pow_bitsNeeded _))
      _ = 2 ^ (bitsNeeded topo.llcs + coreShift topo) := by rw [coreShift,Nat.pow_add,Nat.pow_add]
      _ ≤ 2 ^ 32 := Nat.pow_le_pow_right (by decide) narrow
  have fits : topo.llcs * (topo.threadsPerCore * topo.coresPerLlc) < u32Span := by
    apply Nat.lt_of_le_of_ne bound
    intro full
    rw [full] at wrapped
    exact some wrapped
  rw [Nat.mod_eq_of_lt fits] at wrapped
  have positive := Nat.pos_of_ne_zero (wrapped ▸ some)
  have perLlc := Nat.pos_of_mul_pos_left positive
  exact ⟨Nat.pos_of_mul_pos_right positive,Nat.pos_of_mul_pos_left perLlc,Nat.pos_of_mul_pos_right perLlc,wrapped,fits,
    narrow⟩

def place (topo : Topology) (cpuId : Nat) : Nat :=
  cpuId / topo.threadsPerCore / topo.coresPerLlc * 2 ^ bitsNeeded topo.coresPerLlc +
    cpuId / topo.threadsPerCore % topo.coresPerLlc

theorem digits_lt {high low high' low' base : Nat} (small : low < base)
    (before : high < high' ∨ high = high' ∧ low < low') : high * base + low < high' * base + low' := by
  rcases before with earlier | ⟨rfl,less⟩
  · have next := mul_le_mul_right base (succ_le_of_lt earlier)
    rw [succ_mul] at next
    omega
  · exact Nat.add_lt_add_left less _

theorem div_mod_lt {first second : Nat} {base : Nat} (less : first < second) :
    first / base < second / base ∨ first / base = second / base ∧ first % base < second % base := by
  rcases Nat.lt_or_eq_of_le (Nat.div_le_div_right (c := base) (Nat.le_of_lt less)) with lower | same
  · exact Or.inl lower
  · refine Or.inr ⟨same,?_⟩
    have digits := div_add_mod first base
    have others := div_add_mod second base
    rw [same] at digits
    omega

theorem div_of_digits {high low bits : Nat} (small : low < 2 ^ bits) : (high * 2 ^ bits + low) / 2 ^ bits = high := by
  rw [Nat.mul_comm,Nat.mul_add_div (Nat.two_pow_pos bits),Nat.div_eq_of_lt small,Nat.add_zero]

namespace Numbered

variable {topo : Topology} (sized : Numbered topo)
include sized

theorem perLlc : topo.threadsPerCore * topo.coresPerLlc < u32Span :=
  Nat.lt_of_le_of_lt (Nat.le_mul_of_pos_left _ sized.llcs) sized.fits

theorem perLlc_ne : wrapU32 (topo.threadsPerCore * topo.coresPerLlc) ≠ 0 := by
  rw [wrapU32,mod_eq_of_lt sized.perLlc]
  exact (mul_pos sized.threads sized.cores).ne'

variable (cpuId : Nat)

theorem core_lt : cpuId / topo.threadsPerCore % topo.coresPerLlc < 2 ^ bitsNeeded topo.coresPerLlc :=
  (mod_lt _ sized.cores).trans_le (le_pow_bitsNeeded _)

theorem thread_lt : cpuId % topo.threadsPerCore < 2 ^ bitsNeeded topo.threadsPerCore :=
  (mod_lt _ sized.threads).trans_le (le_pow_bitsNeeded _)

theorem llc_lt (inside : cpuId < topo.totalCpus) :
    cpuId / (topo.threadsPerCore * topo.coresPerLlc) < topo.llcs := by
  rw [sized.total,mul_comm] at inside
  exact Nat.div_lt_of_lt_mul inside

theorem decompose : topo.decompose cpuId = (cpuId / topo.threadsPerCore / topo.coresPerLlc,
      cpuId / topo.threadsPerCore % topo.coresPerLlc,cpuId % topo.threadsPerCore) := by
  rw [Topology.decompose,wrapU32,Nat.mod_eq_of_lt sized.perLlc,Nat.div_div_eq_div_mul]

theorem apicId_place (inside : cpuId < topo.totalCpus) :
    apicId topo cpuId = place topo cpuId * 2 ^ bitsNeeded topo.threadsPerCore + cpuId % topo.threadsPerCore := by
  have fits : (cpuId / (topo.threadsPerCore * topo.coresPerLlc) + 1) *
      2 ^ (bitsNeeded topo.coresPerLlc + bitsNeeded topo.threadsPerCore) ≤ u32Span := by
    calc (cpuId / (topo.threadsPerCore * topo.coresPerLlc) + 1) *
          2 ^ (bitsNeeded topo.coresPerLlc + bitsNeeded topo.threadsPerCore)
        ≤ 2 ^ bitsNeeded topo.llcs * 2 ^ (bitsNeeded topo.coresPerLlc + bitsNeeded topo.threadsPerCore) :=
          mul_le_mul_right _ ((sized.llc_lt cpuId inside).trans_le (le_pow_bitsNeeded _))
      _ = 2 ^ (bitsNeeded topo.llcs + coreShift topo) := by
          rw [coreShift,add_comm (bitsNeeded topo.coresPerLlc),← pow_add]
      _ ≤ 2 ^ 32 := Nat.pow_le_pow_right (by decide) sized.narrow
  rw [apicId_eq sized.cores sized.threads sized.perLlc fits,place,Nat.div_div_eq_div_mul]
  ring

theorem apicId_lt (first second : Nat) (less : first < second) (inside : second < topo.totalCpus) :
    apicId topo first < apicId topo second := by
  rw [sized.apicId_place first (less.trans inside),sized.apicId_place second inside]
  apply digits_lt (sized.thread_lt first)
  rcases div_mod_lt less with lower | ⟨same,threads⟩
  · exact Or.inl (digits_lt (sized.core_lt first) (div_mod_lt lower))
  · refine Or.inr ⟨?_,threads⟩
    rw [place,place,same]

theorem apicId_core (inside : cpuId < topo.totalCpus) :
    apicId topo cpuId / 2 ^ smtShift topo = place topo cpuId := by
  rw [sized.apicId_place cpuId inside]
  exact div_of_digits (sized.thread_lt cpuId)

theorem place_div : place topo cpuId / 2 ^ bitsNeeded topo.coresPerLlc = (topo.decompose cpuId).1 := by
  rw [sized.decompose]
  exact div_of_digits (sized.core_lt cpuId)

theorem apicId_llc (inside : cpuId < topo.totalCpus) :
    apicId topo cpuId / 2 ^ coreShift topo = (topo.decompose cpuId).1 := by
  rw [coreShift,Nat.pow_add,← Nat.div_div_eq_div_mul,← sized.place_div cpuId,← sized.apicId_core cpuId inside,smtShift]

theorem place_eq_iff (first second : Nat) : place topo first = place topo second ↔ SameCore topo first second := by
  constructor
  · intro same
    have llc : SameLlc topo first second := by rw [SameLlc,← sized.place_div,← sized.place_div,same]
    refine ⟨llc,?_⟩
    rw [SameLlc,sized.decompose,sized.decompose] at llc
    simp only at llc
    rw [place,llc] at same
    exact add_left_cancel same
  · intro ⟨llc,core⟩
    rw [SameLlc,sized.decompose,sized.decompose] at llc
    rw [sized.decompose,sized.decompose] at core
    simp only at llc core
    rw [place,place,llc,core]

theorem apicId_u32 (inside : cpuId < topo.totalCpus) : apicId topo cpuId < 2 ^ 32 := by
  apply (Nat.div_lt_iff_lt_mul (Nat.two_pow_pos (coreShift topo))).mp (_ : _ < 2 ^ bitsNeeded topo.llcs) |>.trans_le
  · rw [← Nat.pow_add]
    exact Nat.pow_le_pow_right (by decide) sized.narrow
  · rw [sized.apicId_llc cpuId inside,sized.decompose,Nat.div_div_eq_div_mul]
    exact (sized.llc_lt cpuId inside).trans_le (le_pow_bitsNeeded _)

theorem apicId_le_max (inside : cpuId < topo.totalCpus) : apicId topo cpuId ≤ maxApicId topo := by
  rw [maxApicId,if_neg (ne_zero_of_lt inside)]
  rcases lt_or_eq_of_le (le_sub_one_of_lt inside) with earlier | last
  · exact le_of_lt (sized.apicId_lt _ _ earlier (by omega))
  · rw [last]

end Numbered

/-! Entries of a table and the host's entries they are made from -/

variable {vendor : CpuVendor} {source : KvmCpuidEntry2}

theorem patchEntry_key {topo : Topology} {cpuId : Nat} {entry : KvmCpuidEntry2}
    (patched : patchEntry vendor topo cpuId source = some entry) :
    entry.function = source.function ∧ entry.index = source.index := by
  unfold patchEntry at patched
  dsimp only at patched
  split at patched
  · cases patched
    exact ⟨rfl,rfl⟩
  split at patched
  · cases patched
    exact ⟨rfl,rfl⟩
  split at patched
  · cases patched
    unfold patchTopology
    split
    · exact ⟨rfl,rfl⟩
    · split <;> exact ⟨rfl,rfl⟩
  split at patched
  · cases patched
    unfold patchPmu
    split <;> exact ⟨rfl,rfl⟩
  split at patched
  · cases patched
    exact ⟨rfl,rfl⟩
  split at patched
  · cases patched
    exact ⟨rfl,rfl⟩
  split at patched
  · obtain ⟨nodeId,_,rfl⟩ := Option.map_eq_some_iff.mp patched
    exact ⟨rfl,rfl⟩
  · cases patched
    exact ⟨rfl,rfl⟩

theorem patchEntry_topology {topo : Topology} {cpuId : Nat} (leaf : source.function = 0xb ∨ source.function = 0x1f) :
    patchEntry vendor topo cpuId source = some (patchTopology topo (word (apicId topo cpuId))
      (word (topo.coresPerLlc * topo.threadsPerCore)) source) := by
  rcases leaf with leaf | leaf <;> simp [patchEntry,leaf]

theorem patchEntry_cache {topo : Topology} {cpuId : Nat} (leaf : IsCacheLeaf vendor source) :
    patchEntry vendor topo cpuId source =
      some (patchCacheTopologyEax source (smtShift topo) (coreShift topo) topo.coresPerLlc) := by
  rcases leaf with ⟨leaf,rfl⟩ | ⟨leaf,rfl⟩ <;> simp [patchEntry,leaf]

theorem mem_updateFirst (function : BitVec 32) (update : KvmCpuidEntry2 → KvmCpuidEntry2)
    (kept : ∀ entry, (update entry).function = entry.function) (entries : List KvmCpuidEntry2) (entry : KvmCpuidEntry2)
    (member : entry ∈ updateFirst function update entries) (other : entry.function ≠ function) : entry ∈ entries := by
  induction entries with
  | nil => exact member
  | cons head entries ih =>
    rw [updateFirst] at member
    split at member
    · next here =>
      rcases mem_cons.mp member with rfl | later
      · rw [kept] at other
        exact absurd here other
      · exact mem_cons_of_mem _ later
    · rcases mem_cons.mp member with rfl | later
      · exact mem_cons_self
      · exact mem_cons_of_mem _ (ih later)

variable (baseCpuid : List KvmCpuidEntry2) (topo : Topology) (cpuId : Nat) (performanceMode : Bool)
  (entries : List KvmCpuidEntry2) (entry : KvmCpuidEntry2)

variable {baseCpuid topo cpuId performanceMode entries entry}

theorem mem_generateCpuid (generated : generateCpuid baseCpuid topo cpuId performanceMode = some entries)
    (member : entry ∈ entries) (signature : entry.function ≠ 0x40000000) (features : entry.function ≠ 0x40000001) :
    ∃ source ∈ baseCpuid, patchEntry (detectVendor baseCpuid) topo cpuId source = some entry := by
  unfold generateCpuid at generated
  split at generated
  · cases generated
  obtain ⟨patched,mapped,rfl⟩ := Option.map_eq_some_iff.mp generated
  have among : entry ∈ addHypervisor patched := by
    cases performanceMode with
    | false => exact member
    | true =>
      have second := mem_updateFirst 0x40000000 raiseMaxLeaf (fun _ => rfl) _ entry member signature
      exact mem_updateFirst 0x40000001 setRealtime (fun _ => rfl) _ entry second features
  rw [mapM_eq_some] at mapped
  rw [← mem_map,mapped,mem_map_of_injective (Option.some_injective _)]
  unfold addHypervisor at among
  split at among
  · exact among
  · rcases mem_append.mp among with here | last
    · exact here
    · rw [mem_singleton.mp last] at signature
      exact absurd rfl signature

theorem topology_entry (generated : generateCpuid baseCpuid topo cpuId performanceMode = some entries)
    (member : entry ∈ entries) (leaf : entry.function = 0xb ∨ entry.function = 0x1f) :
    entry.edx = word (apicId topo cpuId) ∧ (entry.index = 0 → entry.eax = word (smtShift topo)) ∧
      (entry.index = 1 → entry.eax = word (coreShift topo)) := by
  obtain ⟨source,_,patched⟩ := mem_generateCpuid generated member
    (by rcases leaf with leaf | leaf <;> rw [leaf] <;> decide) (by rcases leaf with leaf | leaf <;> rw [leaf] <;> decide)
  obtain ⟨function,index⟩ := patchEntry_key patched
  rw [function] at leaf
  rw [patchEntry_topology leaf] at patched
  cases patched
  unfold patchTopology
  split
  · next zero =>
    refine ⟨rfl,fun _ => rfl,?_⟩
    intro one
    rw [zero] at one
    cases one
  · next nonzero =>
    split
    · next one => exact ⟨rfl,fun zero => absurd zero nonzero,fun _ => rfl⟩
    · next other => exact ⟨rfl,fun zero => absurd zero nonzero,fun one => absurd one other⟩

theorem domainId_eq {apic width : Nat} (id : entry.edx = word apic) (shift : entry.eax = word width)
    (apicLow : apic < 2 ^ 32) (widthLow : width < 2 ^ 32) : domainId entry = apic >>> (width % 32) := by
  rw [domainId,id,shift,word,word,BitVec.toNat_ofNat,BitVec.toNat_ofNat,mod_eq_of_lt apicLow,mod_eq_of_lt widthLow]

theorem sharing_field (value sharing cores : BitVec 32) :
    ((((value &&& 0xfc003fff ||| (sharing &&& 0xfff) <<< 14) &&& 0x03ffffff ||| (cores &&& 0x3f) <<< 26) >>> 14) &&& 0xfff) =
      sharing &&& 0xfff := by
  apply BitVec.eq_of_getLsbD_eq
  intro i inside
  interval_cases i <;> simp

theorem level_field {value sharing cores : BitVec 32} :
    ((((value &&& 0xfc003fff ||| (sharing &&& 0xfff) <<< 14) &&& 0x03ffffff ||| (cores &&& 0x3f) <<< 26) >>> 5) &&& 0x7) =
      (value >>> 5) &&& 0x7 := by
  apply BitVec.eq_of_getLsbD_eq
  intro i inside
  interval_cases i <;> simp

theorem lowMask_toNat {bits : Nat} (small : bits ≤ 12) : (lowMask bits &&& 0xfff).toNat + 1 = 2 ^ bits := by
  interval_cases bits <;> rfl

theorem cache_entry (generated : generateCpuid baseCpuid topo cpuId performanceMode = some entries)
    (member : entry ∈ entries) (leaf : IsCacheLeaf (detectVendor baseCpuid) entry) (level : cacheLevel entry = 3)
    (small : coreShift topo ≤ 12) : sharingWidth entry = coreShift topo := by
  obtain ⟨source,_,patched⟩ := mem_generateCpuid generated member
    (by rcases leaf with ⟨leaf,_⟩ | ⟨leaf,_⟩ <;> rw [leaf] <;> decide)
    (by rcases leaf with ⟨leaf,_⟩ | ⟨leaf,_⟩ <;> rw [leaf] <;> decide)
  rw [IsCacheLeaf,(patchEntry_key patched).1] at leaf
  rw [patchEntry_cache leaf] at patched
  cases patched
  have same : cacheLevel source = 3 := level_field.symm.trans level
  have other : ¬ (cacheLevel source = 1 ∨ cacheLevel source = 2) := by
    rw [same]
    decide
  simp only [sharingWidth,patchCacheTopologyEax,sharing_field,if_neg other,if_pos same]
  rw [lowMask_toNat small,bitsNeeded_pow]

theorem generateCpuid_some (sized : Numbered topo)
    (divided : topo.nodes = none → 0 < topo.numaNodes ∧ topo.numaNodes ≤ topo.llcs) :
    ∃ entries, generateCpuid baseCpuid topo cpuId performanceMode = some entries := by
  have node (llcId : Nat) : ∃ nodeId, owningNodeId topo llcId = some nodeId := by
    unfold owningNodeId
    cases kind : topo.nodes with
    | some nodes => exact ⟨_,rfl⟩
    | none =>
      obtain ⟨positive,few⟩ := divided kind
      have share := div_pos few positive
      exact ⟨_,if_neg (by omega)⟩
  have total (source : KvmCpuidEntry2) :
      ∃ entry, patchEntry (detectVendor baseCpuid) topo cpuId source = some entry := by
    unfold patchEntry
    dsimp only
    iterate 6
      split
      · exact ⟨_,rfl⟩
    split
    · obtain ⟨nodeId,found⟩ := node (topo.decompose cpuId).1
      unfold patchExtendedApic
      dsimp only
      rw [found]
      exact ⟨_,rfl⟩
    · exact ⟨_,rfl⟩
  choose patch patched using total
  have mapped : baseCpuid.mapM (patchEntry (detectVendor baseCpuid) topo cpuId) = some (baseCpuid.map patch) := by
    rw [mapM_eq_some,map_map]
    exact map_congr_left fun source _ => patched source
  rw [generateCpuid,if_neg sized.perLlc_ne,mapped]
  exact ⟨_,rfl⟩

theorem decodes_of_narrow (sized : Numbered topo) (short : coreShift topo < 32)
    (divided : topo.nodes = none → 0 < topo.numaNodes ∧ topo.numaNodes ≤ topo.llcs) : Decodes topo where
  increasing := sized.apicId_lt
  bounded := sized.apicId_le_max
  attained := by
    intro some
    refine ⟨topo.totalCpus - 1,sub_one_lt some.ne',?_⟩
    rw [maxApicId,if_neg some.ne']
  produced := by
    intro baseCpuid performanceMode cpuId _
    exact generateCpuid_some sized divided
  cores := by
    intro baseCpuid performanceMode first firstIn second secondIn entries others here there entry member other among
      same leaf zero zero'
    obtain ⟨id,width,_⟩ := topology_entry here member leaf
    obtain ⟨id',width',_⟩ := topology_entry there among (same ▸ leaf)
    have smt : smtShift topo < 32 := lt_of_le_of_lt (le_add_right _ _) short
    rw [domainId_eq id (width zero) (sized.apicId_u32 first firstIn) (by omega),
      domainId_eq id' (width' zero') (sized.apicId_u32 second secondIn) (by omega),mod_eq_of_lt smt,
      shiftRight_eq_div_pow,shiftRight_eq_div_pow,sized.apicId_core first firstIn,
      sized.apicId_core second secondIn]
    exact sized.place_eq_iff first second
  llcs := by
    intro baseCpuid performanceMode first firstIn second secondIn entries others here there entry member other among
      same leaf one one'
    obtain ⟨id,_,width⟩ := topology_entry here member leaf
    obtain ⟨id',_,width'⟩ := topology_entry there among (same ▸ leaf)
    rw [domainId_eq id (width one) (sized.apicId_u32 first firstIn) (by omega),
      domainId_eq id' (width' one') (sized.apicId_u32 second secondIn) (by omega),mod_eq_of_lt short,
      shiftRight_eq_div_pow,shiftRight_eq_div_pow,sized.apicId_llc first firstIn,
      sized.apicId_llc second secondIn]
    exact Iff.rfl
  shared := by
    intro small baseCpuid performanceMode first firstIn second secondIn entries here entry member leaf level
    rw [cache_entry here member leaf level small,
      shiftRight_eq_div_pow,shiftRight_eq_div_pow,sized.apicId_llc first firstIn,
      sized.apicId_llc second secondIn]
    exact Iff.rfl

/-! Topologies whose tables a guest cannot read -/

def coreLevel : KvmCpuidEntry2 := ⟨0xb,1,0,0,0,0,0⟩

theorem generateCpuid_coreLevel (sized : Numbered topo) :
    generateCpuid [coreLevel] topo cpuId false = some [patchTopology topo (word (apicId topo cpuId))
      (word (topo.coresPerLlc * topo.threadsPerCore)) coreLevel,hypervisorLeaf] := by
  rw [generateCpuid,if_neg sized.perLlc_ne,mapM_cons]
  rfl

/-- A width of 32 does not fit five bits: a guest does not shift and finds every vCPU in an LLC of its own. -/
theorem wide_not_decodes (sized : Numbered topo) (wide : coreShift topo = 32) : ¬ Decodes topo := by
  intro decodes
  have single : topo.llcs = 1 := by
    have none : bitsNeeded topo.llcs = 0 := by
      have narrow := sized.narrow
      omega
    have bound := le_pow_bitsNeeded topo.llcs
    rw [none] at bound
    have positive := sized.llcs
    omega
  have large : 2 ^ 32 ≤ 4 * (topo.threadsPerCore * topo.coresPerLlc) := by
    calc 2 ^ 32 = 2 ^ bitsNeeded topo.threadsPerCore * 2 ^ bitsNeeded topo.coresPerLlc := by
          rw [← pow_add,← coreShift,wide]
      _ ≤ 2 * topo.threadsPerCore * (2 * topo.coresPerLlc) :=
          Nat.mul_le_mul (pow_bitsNeeded_le sized.threads) (pow_bitsNeeded_le sized.cores)
      _ = 4 * (topo.threadsPerCore * topo.coresPerLlc) := by ring
  have total := sized.total
  rw [single] at total
  have firstIn : 0 < topo.totalCpus := by omega
  have secondIn : 1 < topo.totalCpus := by omega
  have together : SameLlc topo 0 1 := by
    have second := sized.llc_lt 1 secondIn
    rw [single,lt_one_iff] at second
    rw [SameLlc,sized.decompose,sized.decompose]
    simp only [Nat.div_div_eq_div_mul,Nat.zero_div,second]
  have apart := decodes.increasing 0 1 zero_lt_one secondIn
  have agree := (decodes.llcs [coreLevel] false 0 firstIn 1 secondIn _ _ (generateCpuid_coreLevel sized)
    (generateCpuid_coreLevel sized) _ mem_cons_self _ mem_cons_self rfl (Or.inl rfl) rfl rfl).mpr together
  have shift : word (coreShift topo) = word 32 := by rw [wide]
  rw [domainId_eq rfl shift (sized.apicId_u32 0 firstIn) (by decide),
    domainId_eq rfl shift (sized.apicId_u32 1 secondIn) (by decide)] at agree
  exact apart.ne agree

def amdVendor : KvmCpuidEntry2 := ⟨0,0,0,0,0x68747541,0x444d4163,0x69746e65⟩

def extendedApic : KvmCpuidEntry2 := ⟨0x8000001e,0,0,0,0,0,0⟩

theorem undivided_not_decodes (sized : Numbered topo) (uniform : topo.nodes = none)
    (undivided : ¬ (0 < topo.numaNodes ∧ topo.numaNodes ≤ topo.llcs)) : ¬ Decodes topo := by
  intro decodes
  have some : 0 < topo.totalCpus := by
    rw [sized.total]
    exact mul_pos sized.llcs (mul_pos sized.threads sized.cores)
  obtain ⟨entries,generated⟩ := decodes.produced [amdVendor,extendedApic] false 0 some
  have zero : topo.numaNodes = 0 ∨ topo.llcs / topo.numaNodes = 0 := by
    rcases Nat.eq_zero_or_pos topo.numaNodes with none | positive
    · exact Or.inl none
    · refine Or.inr (div_eq_of_lt ?_)
      omega
  have panics : patchEntry .amd topo 0 extendedApic = none := by
    have node : owningNodeId topo (topo.decompose 0).1 = none := by
      simp only [owningNodeId,uniform]
      exact if_pos zero
    simp [patchEntry,extendedApic,patchExtendedApic,node]
  have vendor : detectVendor [amdVendor,extendedApic] = .amd := rfl
  rw [generateCpuid,if_neg sized.perLlc_ne,vendor,mapM_cons,mapM_cons,panics] at generated
  cases first : patchEntry .amd topo 0 amdVendor with
  | none =>
    cases generated
  | some entry =>
    cases generated

variable (topo)

/-- A guest decodes its tables exactly where the width of an LLC fits its field and nodes have LLCs to divide. -/
theorem guest_decodes_iff (topo : Topology) (narrow : bitsNeeded topo.llcs + coreShift topo ≤ 32) :
    Decodes topo ↔ topo.totalCpus = 0 ∨
      coreShift topo < 32 ∧ (topo.nodes = none → 0 < topo.numaNodes ∧ topo.numaNodes ≤ topo.llcs) := by
  rcases Nat.eq_zero_or_pos topo.totalCpus with none | some
  · refine iff_of_true ?_ (Or.inl none)
    have nobody {cpuId : Nat} (inside : cpuId < topo.totalCpus) : False := by omega
    exact ⟨fun _ _ _ inside => (nobody inside).elim,fun _ inside => (nobody inside).elim,fun some => (nobody some).elim,
      fun _ _ _ inside => (nobody inside).elim,fun _ _ _ inside => (nobody inside).elim,
      fun _ _ _ inside => (nobody inside).elim,fun _ _ _ _ inside => (nobody inside).elim⟩
  · have sized := numbered narrow some.ne'
    constructor
    · intro decodes
      refine Or.inr ⟨?_,?_⟩
      · by_contra long
        exact wide_not_decodes sized (by omega) decodes
      · intro uniform
        by_contra undivided
        exact undivided_not_decodes sized uniform undivided decodes
    · intro condition
      rcases condition with none | ⟨short,divided⟩
      · omega
      · exact decodes_of_narrow sized short divided

def sixCores : Topology where
  llcs := 2
  coresPerLlc := 3
  threadsPerCore := 2
  numaNodes := 2

/-- Cores that are no power of two leave holes in the ids. -/
theorem six_cores_decode : bitsNeeded sixCores.llcs + coreShift sixCores ≤ 32 ∧ Decodes sixCores :=
  ⟨by decide,(guest_decodes_iff sixCores (by decide)).mpr (Or.inr ⟨by decide,fun _ => by decide⟩)⟩

theorem crowd_u32 : 65535 < u32Span := by decide

def crowded : Topology := ⟨1,65535,65535,1,none,none,one_u32,crowd_u32,crowd_u32,one_u32⟩

/-- One LLC of 65535 cores with 65535 threads, which validation accepts. -/
theorem crowded_llc_not_decoded :
    crowded.validate = .ok () ∧ bitsNeeded crowded.llcs + coreShift crowded ≤ 32 ∧ ¬ Decodes crowded :=
  ⟨by decide,by decide,wide_not_decodes (numbered (by decide) (by decide)) (by decide)⟩

end Ktstr.GuestCpuid
