import Ktstr.Library.Records
import Ktstr.Library.Scatter
import Ktstr.Source.GuestLayout

/-! Tables that tell the guest what the VM is: `setup_mptable` of `vmm/x86_64/mptable.rs` and `setup_acpi` of
`vmm/x86_64/acpi.rs`. A table is written as its fields with their widths. Sums and products of 32-bit sizes wrap. A copy
beyond a table's buffer panics and a write outside the guest's memory is an error; both are `none` here. -/
namespace Ktstr.Source.FirmwareTables
open Library.Records Library.Scatter VmTopology GuestLayout

abbrev Memory := Nat → UInt8

abbrev Write := Nat × List UInt8

def covers (regions : List NodeRegion) (address : Nat) : Bool :=
  regions.any fun region => region.gpaStart ≤ address && address < region.gpaStart + region.size

variable (memory : Memory)

def writeSlice (regions : List NodeRegion) (memory : Memory) (write : Write) : Option Memory :=
  if (List.range write.2.length).all fun offset => covers regions (write.1 + offset) then
    some (store memory write.1 write.2)
  else none

def writeSlices (regions : List NodeRegion) (memory : Memory) (writes : List Write) : Option Memory :=
  writes.foldlM (writeSlice regions) memory

def ascii (text : String) : List UInt8 := text.toList.map fun c => UInt8.ofNat c.toNat

def byteSum (bytes : List UInt8) : UInt8 := bytes.foldl (· + ·) 0

def acpiChecksum (data : List UInt8) : UInt8 := ~~~byteSum data + 1

def fill (length : Nat) (parts : List UInt8) : Option (List UInt8) :=
  if length < 2 ^ 63 ∧ parts.length ≤ length then some (parts ++ List.replicate (length - parts.length) 0) else none

def setSdtChecksum (buf : List UInt8) : List UInt8 := (buf.set 9 0).set 9 (acpiChecksum (buf.set 9 0))

def sdtHeader (signature : String) (length revision : Nat) : List UInt8 :=
  ascii signature ++ record [(4,length),(1,revision),(1,0)] ++ ascii "KTSTR\x00" ++ ascii "KTSR" ++ ascii signature ++
    record [(4,1)] ++ ascii "KTSR" ++ record [(4,1)]

def sdt (signature : String) (length revision : Nat) (body : List UInt8) : Option (List UInt8) :=
  (fill length (sdtHeader signature (wrapU32 length) revision ++ body)).map setSdtChecksum

def rsdpAddr : Nat := 0xE0000

def rsdpSize : Nat := 36

structure AcpiLayout where
  dsdtAddr : Nat
  dsdtSize : Nat
  madtAddr : Nat
  madtSize : Nat
  fadtAddr : Nat
  fadtSize : Nat
  sratAddr : Nat
  sratSize : Nat
  slitAddr : Nat
  slitSize : Nat
  hmatAddr : Nat
  hmatSize : Nat
  rsdtAddr : Nat
  rsdtSize : Nat
  xsdtAddr : Nat
  xsdtSize : Nat

def ioapicAddr : Nat := 0xFEC00000

def lapicAddr : Nat := 0xFEE00000

/-! MADT -/

def useX2apicEntry (apicId : Nat) : Bool := apicId ≥ 255

variable (topo : Topology) (regions : List NodeRegion)

def hasX2apic : Bool := (List.range topo.totalCpus).any fun cpuId => useX2apicEntry (apicId topo cpuId)

def hasLapic : Bool := (List.range topo.totalCpus).any fun cpuId => !useX2apicEntry (apicId topo cpuId)

def madtX2Apic (id cpuId : Nat) : List UInt8 := record [(1,9),(1,16),(2,0),(4,id),(4,1),(4,cpuId)]

def madtLocalApic (id cpuId : Nat) : List UInt8 := record [(1,0),(1,8),(1,cpuId),(1,id),(4,1)]

def madtCpu (cpuId : Nat) : List UInt8 :=
  let id := apicId topo cpuId
  if useX2apicEntry id then madtX2Apic id cpuId else madtLocalApic id cpuId

def madtIoApic : List UInt8 := record [(1,1),(1,12),(1,0),(1,0),(4,ioapicAddr),(4,0)]

def madtIso : List UInt8 := record [(1,2),(1,10),(1,0),(1,0),(4,2),(2,0)]

def madtLapicNmi : List UInt8 := record [(1,4),(1,6),(1,0xFF),(2,0),(1,1)]

def madtX2ApicNmi : List UInt8 := record [(1,10),(1,12),(2,0),(4,0xFFFFFFFF),(1,1),(3,0)]

def computeMadtSize : Nat :=
  let cpuEntriesSize := ((List.range topo.totalCpus).map fun cpuId =>
    if useX2apicEntry (apicId topo cpuId) then 16 else 8).sum
  let nmiSize := (if hasLapic topo then 6 else 0) + if hasX2apic topo then 12 else 0
  wrapU32 (44 + cpuEntriesSize + 12 + 10 + nmiSize)

def madtEntries : List (List UInt8) :=
  (List.range topo.totalCpus).map (madtCpu topo) ++ [madtIoApic,madtIso] ++
    (if hasLapic topo then [madtLapicNmi] else []) ++ if hasX2apic topo then [madtX2ApicNmi] else []

def writeMadt : Option (List UInt8) :=
  sdt "APIC" (computeMadtSize topo) 3 (record [(4,lapicAddr),(4,1)] ++ (madtEntries topo).flatten)

/-! SRAT and SLIT -/

def sratCpuAffinity (cpuId : Nat) : List UInt8 :=
  let (llcId,_,_) := topo.decompose cpuId
  record [(1,2),(1,24),(2,0),(4,topo.numaNodeOf llcId),(4,apicId topo cpuId),(4,1),(4,0),(4,0)]

def sratMemAffinity (region : NodeRegion) : List UInt8 :=
  record [(1,1),(1,40),(4,region.nodeId),(2,0),(8,region.gpaStart),(8,region.size),(4,0),(4,1),(8,0)]

def sratSize : Nat :=
  wrapU32 (48 + 24 * topo.totalCpus + 40 * wrapU32 regions.length)

def sratEntries : List (List UInt8) :=
  (List.range topo.totalCpus).map (sratCpuAffinity topo) ++ regions.map sratMemAffinity

def writeSrat : Option (List UInt8) :=
  sdt "SRAT" (sratSize topo regions) 3 (record [(4,1),(8,0)] ++ (sratEntries topo regions).flatten)

def slitSize : Nat := 36 + 8 + topo.numaNodes * topo.numaNodes

def slitMatrix : List UInt8 :=
  (List.range topo.numaNodes).flatMap fun i => (List.range topo.numaNodes).map fun j => UInt8.ofNat (topo.distance i j)

def writeSlit : Option (List UInt8) :=
  sdt "SLIT" (slitSize topo) 1 (record [(8,topo.numaNodes)] ++ slitMatrix topo)

/-! HMAT -/

def hmatLatencyBasePs : Nat := 100000

def hmatBwBaseMbs : Nat := 10240

def u16 (value : Nat) : Nat := value % 65536

def initiators : List Nat := (List.range topo.numaNodes).filter fun n => topo.llcsInNode n > 0

def targets : List Nat := regions.map NodeRegion.nodeId

def nodesWithCache : List (MemSideCache × Nat) :=
  ((topo.nodes.getD []).zipIdx).filterMap fun entry => entry.1.memSideCache.map fun cache => (cache,entry.2)

def sllbiLen (ni nt : Nat) : Nat := 32 + 4 * ni + 4 * nt + 2 * ni * nt

def computeHmatSize : Nat :=
  wrapU32 (40 + 40 * regions.length + sllbiLen topo.cpuBearingNodes regions.length * 2 + 32 * (nodesWithCache topo).length)

def minByKey (key : Nat → Nat) : List Nat → Option Nat
  | [] => none
  | first::rest => some (rest.foldl (fun best x => if key x < key best then x else best) first)

-- A topology that was accepted has a node with LLCs, so the fallback of the source is never read.
def hmatMpda (targetNode : Nat) : List UInt8 :=
  let initiator := if topo.llcsInNode targetNode > 0 then targetNode
    else (minByKey (fun i => topo.distance i targetNode) (initiators topo)).getD 0
  record [(2,0),(2,0),(4,40),(2,3),(2,0),(4,initiator),(4,targetNode),(4,0),(8,0),(8,0)]

def targetConfig (tgtNode : Nat) : Option NumaNode := topo.nodes.bind fun nodes => nodes[tgtNode]?

def latencyEntry (initNode tgtNode : Nat) : Nat :=
  let node := targetConfig topo tgtNode
  let base := match node.bind NumaNode.latencyNs with
    | some ns => u16 (max (ns * 1000 / hmatLatencyBasePs) 1)
    | none => if node.any NumaNode.isMemoryOnly then 3 else 1
  max (u16 (base * topo.distance initNode tgtNode / 10)) 1

def bandwidthEntry (initNode tgtNode : Nat) : Nat :=
  let node := targetConfig topo tgtNode
  let base := match node.bind NumaNode.bandwidthMbs with
    | some mbs => u16 (max (mbs / hmatBwBaseMbs) 1)
    | none => if node.any NumaNode.isMemoryOnly then 2 else 5
  max (u16 (base * 10 / max (topo.distance initNode tgtNode) 1)) 1

def hmatSllbi (inits tgts : List Nat) (dataType baseUnit : Nat) (entry : Nat → Nat → Nat) : List UInt8 :=
  record [(2,1),(2,0),(4,wrapU32 (sllbiLen inits.length tgts.length)),(1,0),(1,dataType),(1,0),(1,0),(4,inits.length),
      (4,tgts.length),(4,0),(8,baseUnit)] ++
    record (inits.map (Prod.mk 4)) ++ record (tgts.map (Prod.mk 4)) ++
    record (inits.flatMap fun i => tgts.map fun t => (2,entry i t))

def hmatMsci (cache : MemSideCache) (node : Nat) : List UInt8 :=
  let attrs := 1 ||| (1 <<< 4) ||| ((cache.associativity % 16) <<< 8) ||| ((cache.writePolicy % 16) <<< 12) |||
    (cache.lineSize <<< 16)
  record [(2,2),(2,0),(4,32),(4,node),(4,0),(8,cache.size),(4,attrs),(2,0),(2,0)]

def hmatEntries : List (List UInt8) :=
  (targets regions).map (hmatMpda topo) ++
    [hmatSllbi (initiators topo) (targets regions) 0 hmatLatencyBasePs (latencyEntry topo),
      hmatSllbi (initiators topo) (targets regions) 3 hmatBwBaseMbs (bandwidthEntry topo)] ++
    (nodesWithCache topo).map fun entry => hmatMsci entry.1 entry.2

def writeHmat : Option (List UInt8) :=
  sdt "HMAT" (computeHmatSize topo regions) 2 (record [(4,0)] ++ (hmatEntries topo regions).flatten)

/-! The other tables and the order of all of them -/

def emitHmat : Bool := topo.numaNodes > 1

def acpiLayout : AcpiLayout :=
  let dsdtAddr := rsdpAddr + rsdpSize
  let madtAddr := dsdtAddr + 36
  let madtSize := computeMadtSize topo
  let fadtAddr := madtAddr + madtSize
  let sratAddr := fadtAddr + 276
  let sratSize := sratSize topo regions
  let slitAddr := sratAddr + sratSize
  let slitSize := slitSize topo
  let hmatAddr := slitAddr + slitSize
  let hmatSize := if emitHmat topo then computeHmatSize topo regions else 0
  let tableCount := if emitHmat topo then 5 else 4
  let rsdtAddr := hmatAddr + hmatSize
  let rsdtSize := 36 + tableCount * 4
  { dsdtAddr := dsdtAddr, dsdtSize := 36, madtAddr := madtAddr, madtSize := madtSize, fadtAddr := fadtAddr
    fadtSize := 276, sratAddr := sratAddr, sratSize := sratSize, slitAddr := slitAddr, slitSize := slitSize
    hmatAddr := hmatAddr, hmatSize := hmatSize, rsdtAddr := rsdtAddr, rsdtSize := rsdtSize
    xsdtAddr := rsdtAddr + rsdtSize, xsdtSize := 36 + tableCount * 8 }

variable (layout : AcpiLayout)

def rsdtEntries : List Nat :=
  [layout.fadtAddr,layout.madtAddr,layout.sratAddr,layout.slitAddr] ++
    if layout.hmatSize > 0 then [layout.hmatAddr] else []

def writeDsdt : Option (List UInt8) := sdt "DSDT" 36 2 []

def writeFadt : Option (List UInt8) :=
  sdt "FACP" 276 6 (record [(4,0),(4,layout.dsdtAddr),(68,0),(4,0x30),(15,0),(1,5),(8,0),(8,layout.dsdtAddr)])

def writeRsdt : Option (List UInt8) :=
  sdt "RSDT" layout.rsdtSize 1 (record ((rsdtEntries layout).map (Prod.mk 4)))

def writeXsdt : Option (List UInt8) :=
  sdt "XSDT" layout.xsdtSize 1 (record ((rsdtEntries layout).map (Prod.mk 8)))

variable (checksum : UInt8)

def rsdp (extendedChecksum : UInt8) : List UInt8 :=
  ascii "RSD PTR " ++ [checksum] ++ ascii "KTSTR\x00" ++
    record [(1,2),(4,layout.rsdtAddr),(4,36),(8,layout.xsdtAddr)] ++ [extendedChecksum] ++ record [(3,0)]

def writeRsdp : List UInt8 :=
  let checksum := acpiChecksum ((rsdp layout 0 0).take 20)
  rsdp layout checksum (acpiChecksum (rsdp layout checksum 0))

def emittedHmat (hmatAddr : Nat) : Option (List Write) :=
  if emitHmat topo then (writeHmat topo regions).map fun hmat => [(hmatAddr,hmat)] else some []

def acpiTables : Option (List Write) := do
  let layout := acpiLayout topo regions
  let dsdt ← writeDsdt
  let madt ← writeMadt topo
  let fadt ← writeFadt layout
  let srat ← writeSrat topo regions
  let slit ← writeSlit topo
  let hmat ← emittedHmat topo regions layout.hmatAddr
  let rsdt ← writeRsdt layout
  let xsdt ← writeXsdt layout
  some ([(layout.dsdtAddr,dsdt),(layout.madtAddr,madt),(layout.fadtAddr,fadt),(layout.sratAddr,srat),
    (layout.slitAddr,slit)] ++ hmat ++ [(layout.rsdtAddr,rsdt),(layout.xsdtAddr,xsdt),(rsdpAddr,writeRsdp layout)])

def setupAcpi : Option (AcpiLayout × Memory) := do
  let tables ← acpiTables topo regions
  let memory ← writeSlices regions memory tables
  some (acpiLayout topo regions,memory)

/-! MP table -/

def mptableStart : Nat := 0x9FC00

def mpFloating : List UInt8 :=
  ascii "_MP_" ++ record [(4,mptableStart + 16),(1,1),(1,4)] ++ [checksum] ++ record [(1,0),(1,0x80),(3,0)]

def mpCpu (cpuId : Nat) : List UInt8 :=
  record [(1,0),(1,apicId topo cpuId),(1,0x14),(1,if cpuId = 0 then 3 else 1),(4,0x0600),(4,0x0201),(8,0)]

def mpEntries : List UInt8 :=
  (List.range topo.totalCpus).flatMap (mpCpu topo) ++ record [(1,1),(1,0)] ++ ascii "ISA   " ++
    record [(1,2),(1,0xFE),(1,0x14),(1,1),(4,ioapicAddr)] ++
    ((List.range 24).flatMap fun irq => record [(1,3),(1,0),(1,0),(1,0),(1,0),(1,irq),(1,0xFE),(1,irq)]) ++
    (List.range 2).flatMap fun lint => record [(1,4),(1,if lint = 0 then 3 else 1),(4,0),(1,0xFF),(1,lint)]

def mpHeader : List UInt8 :=
  ascii "PCMP" ++ record [(2,44 + u16 (mpEntries topo).length),(1,4)] ++ [checksum] ++ ascii "KTSTR   " ++
    ascii "000000000000" ++ record [(4,0),(2,0),(2,wrapU32 (topo.totalCpus + 28)),(4,lapicAddr),(4,0)]

/-- The floating pointer, the header and the entries. The source writes them piece by piece, the header last. -/
def mptable : List UInt8 :=
  mpFloating (acpiChecksum (mpFloating 0)) ++ mpHeader topo (acpiChecksum (mpHeader topo 0 ++ mpEntries topo)) ++
    mpEntries topo

def setupMptable : Option Memory :=
  writeSlice regions memory (mptableStart,mptable topo)

end Ktstr.Source.FirmwareTables
