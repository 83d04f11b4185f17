import Ktstr.Source.FirmwareTables

/-! What a guest reads out of the firmware tables, decoded from its memory alone. -/
namespace Ktstr.Semantics.Firmware
open Library.Incremental Library.Records Library.Scatter Source.VmTopology Source.GuestLayout Source.FirmwareTables

def tableAt (memory : Memory) (address : Nat) : List UInt8 :=
  load memory address (readField (load memory address 8) 4 4)

def lengthField (table : List UInt8) : Nat :=
  if table.take 8 = ascii "RSD PTR " then readField table 20 4 else readField table 4 4

def entriesFrom (offset : Nat) (table : List UInt8) : List (List UInt8) × List UInt8 :=
  decode (recordParser 2 (fun header => readField header 1 1) (by decide)) (table.drop offset)

def subtablesFrom (offset : Nat) (table : List UInt8) : List (List UInt8) × List UInt8 :=
  decode (recordParser 8 (fun header => readField header 4 4) (by decide)) (table.drop offset)

def enabled (flags : Nat) : Bool := flags % 2 = 1

def cpuEntry (entry : List UInt8) : Option (Nat × Nat) :=
  match readField entry 0 1 with
  | 0 => if enabled (readField entry 4 4) then some (readField entry 2 1,readField entry 3 1) else none
  | 9 => if enabled (readField entry 8 4) then some (readField entry 12 4,readField entry 4 4) else none
  | _ => none

def cpuAffinity (entry : List UInt8) : Option (Nat × Nat) :=
  match readField entry 0 1 with
  | 0 =>
    if enabled (readField entry 4 4) then some (readField entry 3 1,readField entry 2 1 + 256 * readField entry 9 3)
    else none
  | 2 => if enabled (readField entry 12 4) then some (readField entry 8 4,readField entry 4 4) else none
  | _ => none

def memoryAffinity (entry : List UInt8) : Option (Nat × Nat × Nat) :=
  match readField entry 0 1 with
  | 1 =>
    if enabled (readField entry 28 4) then some (readField entry 2 4,readField entry 8 8,readField entry 16 8) else none
  | _ => none

variable (topo : Topology)

def vcpus : List Nat := List.range (topo.llcs * topo.coresPerLlc * topo.threadsPerCore)

def nodeOf (cpuId : Nat) : Nat := topo.numaNodeOf (cpuId / (topo.coresPerLlc * topo.threadsPerCore))

structure Describes (topo : Topology) (regions : List NodeRegion) (layout : AcpiLayout) (mp acpi : List Write)
    (memory : Memory) : Prop where
  inside : ∀ table ∈ mp ++ acpi, ebdaStart ≤ table.1 ∧ table.1 + table.2.length ≤ himemStart
  apart : ((mp ++ acpi).map extentOf).Pairwise Apart
  length : ∀ table ∈ acpi, lengthField (load memory table.1 table.2.length) = table.2.length
  sum : ∀ table ∈ acpi, byteSum (load memory table.1 table.2.length) = 0
  cpus : (entriesFrom 44 (tableAt memory layout.madtAddr)).1.filterMap cpuEntry =
    (vcpus topo).map fun cpuId => (cpuId,apicId topo cpuId)
  affinities : (entriesFrom 48 (tableAt memory layout.sratAddr)).1.filterMap cpuAffinity =
    (vcpus topo).map fun cpuId => (apicId topo cpuId,nodeOf topo cpuId)
  memories : (entriesFrom 48 (tableAt memory layout.sratAddr)).1.filterMap memoryAffinity =
    regions.map fun region => (region.nodeId,region.gpaStart,region.size)
  order : readField (tableAt memory layout.slitAddr) 36 8 = topo.numaNodes
  distances : ∀ i < topo.numaNodes, ∀ j < topo.numaNodes,
    readField (tableAt memory layout.slitAddr) (44 + i * topo.numaNodes + j) 1 = topo.distance i j
  subtables : layout.hmatSize > 0 → (subtablesFrom 40 (tableAt memory layout.hmatAddr)).2 = []

variable (regions : List NodeRegion)

/-- Both setups succeed, one after the other, and the memory they leave describes the VM. -/
def FirmwareDescribes (memory : Memory) : Prop :=
  ∃ booted layout final acpi, setupMptable memory topo regions = some booted ∧
    setupAcpi booted topo regions = some (layout,final) ∧ acpiTables topo regions = some acpi ∧
    Describes topo regions layout [(mptableStart,mptable topo)] acpi final

/-! The bytes each table needs, without the wrapping of their sizes. -/

def madtBytes : Nat :=
  66 + ((vcpus topo).map fun cpuId => if apicId topo cpuId < 255 then 8 else 16).sum +
    (if ∃ cpuId ∈ vcpus topo, apicId topo cpuId < 255 then 6 else 0) +
    if ∃ cpuId ∈ vcpus topo, 255 ≤ apicId topo cpuId then 12 else 0

def sratBytes : Nat :=
  48 + 24 * (topo.llcs * topo.coresPerLlc * topo.threadsPerCore) + 40 * regions.length

def hmatBytes : Nat :=
  40 + 40 * regions.length + 2 * sllbiLen topo.cpuBearingNodes regions.length + 32 * (nodesWithCache topo).length

/-- Root pointer, DSDT and FADT, then the sized tables, then the two root tables with a pointer to each. -/
def acpiBytes : Nat :=
  36 + 36 + 276 + madtBytes topo + sratBytes topo regions + (44 + topo.numaNodes * topo.numaNodes) +
    if topo.numaNodes > 1 then hmatBytes topo regions + (72 + 5 * 12) else 72 + 4 * 12

def Fits : Prop :=
  (∃ region ∈ regions, region.size ≠ 0) ∧ rsdpAddr + acpiBytes topo regions ≤ himemStart

instance (topo : Topology) (regions : List NodeRegion) : Decidable (Fits topo regions) :=
  inferInstanceAs (Decidable (_ ∧ _))

end Ktstr.Semantics.Firmware
