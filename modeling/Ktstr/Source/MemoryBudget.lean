/-! The memory a guest needs to boot, from `vmm/memory_budget.rs`, and the addresses its kernel and initramfs are
loaded at. -/
namespace Ktstr.Source.MemoryBudget

structure MemoryBudget where
  uncompressedInitramfsBytes : Nat
  compressedInitrdBytes : Nat
  kernelInitSize : Nat

def workloadMb : Nat := 256

def mib : Nat := 1048576

def ceilMb (bytes : Nat) : Nat := (bytes + mib - 1) / mib

def divCeil (a b : Nat) : Nat := (a + b - 1) / b

def contentMb (budget : MemoryBudget) : Nat :=
  divCeil (ceilMb budget.uncompressedInitramfsBytes * 10) 9 + ceilMb budget.kernelInitSize +
    ceilMb budget.compressedInitrdBytes

def bootMb (budget : MemoryBudget) : Nat := divCeil (contentMb budget * 64) 63

def initramfsMinMemoryMb (budget : MemoryBudget) : Nat := (bootMb budget + workloadMb) % 4294967296

def initrdAddr : Nat := 0x8000000

def kernelLoadAddr : Nat := 0x100000

end Ktstr.Source.MemoryBudget
