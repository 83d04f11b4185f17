import Ktstr.Source.VmTopology

/-! CPUID tables of a vCPU, from `vmm/x86_64/topology.rs`. Registers are 32-bit words; where there is no
result, a division by zero panics. -/
namespace Ktstr.Source.Cpuid
open VmTopology

inductive CpuVendor
  | intel
  | amd
  | unknown
deriving DecidableEq

structure KvmCpuidEntry2 where
  function : BitVec 32
  index : BitVec 32
  flags : BitVec 32 := 0
  eax : BitVec 32
  ebx : BitVec 32
  ecx : BitVec 32
  edx : BitVec 32
deriving DecidableEq

def word (value : Nat) : BitVec 32 := BitVec.ofNat 32 value

variable (entries : List KvmCpuidEntry2)

def detectVendor : CpuVendor :=
  match entries.find? fun e => e.function == 0 && e.index == 0 with
  | some e =>
    if e.ebx = 0x756e6547 ∧ e.edx = 0x49656e69 ∧ e.ecx = 0x6c65746e then .intel
    else if e.ebx = 0x68747541 ∧ e.edx = 0x69746e65 ∧ e.ecx = 0x444d4163 then .amd
    else .unknown
  | none => .unknown

variable (topo : Topology)

def maxApicId : Nat :=
  if topo.totalCpus = 0 then 0 else apicId topo (topo.totalCpus - 1)

def smtShift : Nat := bitsNeeded topo.threadsPerCore

def coreShift : Nat := bitsNeeded topo.threadsPerCore + bitsNeeded topo.coresPerLlc

/-- `(1u32 << bits).saturating_sub(1)`, with the amount taken modulo the width. -/
def lowMask (bits : Nat) : BitVec 32 :=
  let bit := 1#32 <<< (bits % 32)
  if bit = 0 then 0 else bit - 1

def cacheLevel (entry : KvmCpuidEntry2) : BitVec 32 := (entry.eax >>> 5) &&& 0x7

def patchCacheTopologyEax (entry : KvmCpuidEntry2) (smt core coresPerLlc : Nat) : KvmCpuidEntry2 :=
  let maxSharing :=
    if cacheLevel entry = 1 ∨ cacheLevel entry = 2 then lowMask smt
    else if cacheLevel entry = 3 then lowMask core
    else 0
  let eax := (entry.eax &&& 0xfc003fff) ||| ((maxSharing &&& 0xfff) <<< 14)
  let maxCoreIds := lowMask (bitsNeeded coresPerLlc)
  {entry with eax := (eax &&& 0x03ffffff) ||| ((maxCoreIds &&& 0x3f) <<< 26)}

variable (apic threadsPerLlc : BitVec 32) (entry : KvmCpuidEntry2)

def patchFeatures : KvmCpuidEntry2 :=
  let ebx := (entry.ebx &&& 0x00ffffff) ||| ((apic &&& 0xff) <<< 24)
  let shown := if threadsPerLlc < 255 then threadsPerLlc else 255
  {entry with
    ebx := (ebx &&& 0xff00ffff) ||| (shown <<< 16)
    edx := if threadsPerLlc > 1 then entry.edx ||| (1 <<< 28) else entry.edx}

/-- Leaves 0xb and 0x1f: threads of a core, threads of an LLC, end of the levels. -/
def patchTopology : KvmCpuidEntry2 :=
  let level := entry.index &&& 0xff
  if entry.index = 0 then
    {entry with
      eax := word (smtShift topo)
      ebx := word topo.threadsPerCore &&& 0xffff
      ecx := (1 <<< 8) ||| level
      edx := apic}
  else if entry.index = 1 then
    {entry with
      eax := word (coreShift topo)
      ebx := threadsPerLlc &&& 0xffff
      ecx := (2 <<< 8) ||| level
      edx := apic}
  else {entry with eax := 0,ebx := 0,ecx := level,edx := apic}

def pmuArchPerfmonVersion : BitVec 32 := 2

def pmuNumGpCounters : BitVec 32 := 4

def pmuGpCounterWidth : BitVec 32 := 48

def pmuEventMaskLength : BitVec 32 := 7

def pmuNumFixedCounters : BitVec 32 := 3

def pmuFixedCounterWidth : BitVec 32 := 48

def patchPmu : KvmCpuidEntry2 :=
  if entry.eax &&& 0xff ≠ 0 then
    {entry with
      eax := pmuArchPerfmonVersion ||| (pmuNumGpCounters <<< 8) ||| (pmuGpCounterWidth <<< 16) |||
        (pmuEventMaskLength <<< 24)
      ebx := 0
      ecx := 0
      edx := pmuNumFixedCounters ||| (pmuFixedCounterWidth <<< 5)}
  else entry

def patchAddressSizes : KvmCpuidEntry2 :=
  {entry with ecx := if threadsPerLlc > 1 then (word (coreShift topo) <<< 12) ||| (threadsPerLlc - 1) else 0}

/-- `numa_node_of`, which divides by the LLCs of a node; the index in a slice is cast to 32 bits. -/
def owningNodeId (llcId : Nat) : Option Nat :=
  match topo.nodes with
  | some nodes => some (wrapU32 ((Topology.owningNode llcId 0 0 nodes).getD (nodes.length + u32Span - 1)))
  | none =>
    if topo.numaNodes = 0 ∨ topo.llcs / topo.numaNodes = 0 then none
    else some (llcId / (topo.llcs / topo.numaNodes))

def patchExtendedApic (cpuId : Nat) (apic : BitVec 32) (entry : KvmCpuidEntry2) : Option KvmCpuidEntry2 :=
  let (llcId,coreId,_) := topo.decompose cpuId
  (owningNodeId topo llcId).map fun nodeId =>
    {entry with
      eax := apic
      ebx := ((word topo.threadsPerCore - 1) <<< 8) ||| (word coreId &&& 0xff)
      ecx := word nodeId ||| ((word topo.numaNodes - 1) <<< 8)
      edx := 0}

def patchEntry (vendor : CpuVendor) (topo : Topology) (cpuId : Nat) (entry : KvmCpuidEntry2) :
    Option KvmCpuidEntry2 :=
  let apic := word (apicId topo cpuId)
  let threadsPerLlc := word (topo.coresPerLlc * topo.threadsPerCore)
  if entry.function = 0x1 then some (patchFeatures apic threadsPerLlc entry)
  else if entry.function = 0x4 ∧ vendor = .intel ∨ entry.function = 0x8000001d ∧ vendor = .amd then
    some (patchCacheTopologyEax entry (smtShift topo) (coreShift topo) topo.coresPerLlc)
  else if entry.function = 0xb ∨ entry.function = 0x1f then some (patchTopology topo apic threadsPerLlc entry)
  else if entry.function = 0xa then some (patchPmu entry)
  else if entry.function = 0x80000001 ∧ vendor = .amd ∧ threadsPerLlc > 1 then
    some {entry with ecx := entry.ecx ||| ((1 <<< 1) ||| (1 <<< 22))}
  else if entry.function = 0x80000008 then some (patchAddressSizes topo threadsPerLlc entry)
  else if entry.function = 0x8000001e ∧ vendor = .amd then patchExtendedApic topo cpuId apic entry
  else some entry

def hypervisorLeaf : KvmCpuidEntry2 where
  function := 0x40000000
  index := 0
  eax := 0x40000001
  ebx := 0x4b564d4b
  ecx := 0x564b4d56
  edx := 0x0000004d

def updateFirst (function : BitVec 32) (update : KvmCpuidEntry2 → KvmCpuidEntry2) :
    List KvmCpuidEntry2 → List KvmCpuidEntry2
  | [] => []
  | entry::entries =>
    if entry.function = function then update entry::entries else entry::updateFirst function update entries

def addHypervisor : List KvmCpuidEntry2 :=
  if entries.any fun e => e.function == 0x40000000 then entries else entries ++ [hypervisorLeaf]

/-- `KVM_HINTS_REALTIME`. -/
def setRealtime : KvmCpuidEntry2 := {entry with edx := entry.edx ||| 1}

def raiseMaxLeaf : KvmCpuidEntry2 :=
  {entry with eax := if entry.eax < 0x40000001 then 0x40000001 else entry.eax}

def hintRealtime : List KvmCpuidEntry2 :=
  updateFirst 0x40000000 raiseMaxLeaf (updateFirst 0x40000001 setRealtime entries)

/-- `decompose` divides by the threads of an LLC. -/
def generateCpuid (baseCpuid : List KvmCpuidEntry2) (topo : Topology) (cpuId : Nat) (performanceMode : Bool) :
    Option (List KvmCpuidEntry2) :=
  if wrapU32 (topo.threadsPerCore * topo.coresPerLlc) = 0 then none
  else
    (baseCpuid.mapM (patchEntry (detectVendor baseCpuid) topo cpuId)).map fun entries =>
      let entries := addHypervisor entries
      if performanceMode then hintRealtime entries else entries

end Ktstr.Source.Cpuid
