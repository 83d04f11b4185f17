import Ktstr.Source.MemoryBudget
import Mathlib.Algebra.Order.Ring.Int

/-! The memory a guest is given against what it unpacks and where it is loaded. -/
namespace Ktstr.MemorySizing
open Source.MemoryBudget

/-- All sizes are below a tebibyte. -/
structure Small (budget : MemoryBudget) : Prop where
  uncompressed : budget.uncompressedInitramfsBytes < 2 ^ 40
  compressed : budget.compressedInitrdBytes < 2 ^ 40
  kernel : budget.kernelInitSize < 2 ^ 40

def memory (budget : MemoryBudget) : Nat := initramfsMinMemoryMb budget * mib

structure Larger (budget other : MemoryBudget) : Prop where
  uncompressed : budget.uncompressedInitramfsBytes ≤ other.uncompressedInitramfsBytes
  compressed : budget.compressedInitrdBytes ≤ other.compressedInitrdBytes
  kernel : budget.kernelInitSize ≤ other.kernelInitSize

/-- The memory holds the workload and, in nine tenths of what the kernel leaves of the rest, the unpacked initramfs;
it grows with every size, and the packed initramfs lies in it and off the kernel. -/
structure Sufficient (budget : MemoryBudget) : Prop where
  workload : workloadMb * mib ≤ memory budget
  unpacks : 10 * budget.uncompressedInitramfsBytes + 9 * (budget.kernelInitSize + budget.compressedInitrdBytes +
    divCeil (memory budget - workloadMb * mib) 64) ≤ 9 * (memory budget - workloadMb * mib)
  grows : ∀ other, Small other → Larger budget other → initramfsMinMemoryMb budget ≤ initramfsMinMemoryMb other
  inside : initrdAddr + budget.compressedInitrdBytes ≤ memory budget
  apart : ∀ address, ¬ ((initrdAddr ≤ address ∧ address < initrdAddr + budget.compressedInitrdBytes) ∧
    kernelLoadAddr ≤ address ∧ address < kernelLoadAddr + budget.kernelInitSize)

variable {budget : MemoryBudget}

theorem minMemory_eq (small : Small budget) : initramfsMinMemoryMb budget = bootMb budget + workloadMb := by
  obtain ⟨uncompressed,compressed,kernel⟩ := small
  apply Nat.mod_eq_of_lt
  unfold bootMb contentMb divCeil ceilMb mib workloadMb
  omega

/-- The memory is sufficient exactly when the kernel ends before the initramfs, or there is none. -/
theorem sufficient_iff (small : Small budget) :
    Sufficient budget ↔ budget.compressedInitrdBytes = 0 ∨ kernelLoadAddr + budget.kernelInitSize ≤ initrdAddr := by
  have sized := minMemory_eq small
  constructor
  · intro sufficient
    have apart := sufficient.apart initrdAddr
    unfold initrdAddr kernelLoadAddr at apart ⊢
    omega
  · intro loaded
    have unpacked : 10 * budget.uncompressedInitramfsBytes + 9 * (budget.kernelInitSize + budget.compressedInitrdBytes +
        divCeil (bootMb budget * mib) 64) ≤ 9 * (bootMb budget * mib) := by
      unfold bootMb contentMb divCeil ceilMb mib
      omega
    have total : memory budget - workloadMb * mib = bootMb budget * mib := by
      rw [memory,sized,Nat.add_mul,Nat.add_sub_cancel]
    refine ⟨?_,?_,?_,?_,?_⟩
    · rw [memory]
      unfold mib
      omega
    · rwa [total]
    · intro other otherSmall larger
      obtain ⟨uncompressed,compressed,kernel⟩ := larger
      rw [sized,minMemory_eq otherSmall]
      unfold bootMb contentMb divCeil ceilMb mib
      omega
    · rw [memory]
      unfold mib initrdAddr workloadMb at *
      omega
    · intro address
      omega

/-- A kernel below 127 MiB leaves the initramfs alone. -/
theorem usual_kernel_sufficient : Sufficient ⟨300000000,100000000,60000000⟩ :=
  (sufficient_iff ⟨by decide,by decide,by decide⟩).mpr (.inr (by decide))

/-- The initramfs is loaded into a kernel of 128 MiB. -/
theorem large_kernel_overlapped : Small ⟨300000000,100000000,134217728⟩ ∧ ¬ Sufficient ⟨300000000,100000000,134217728⟩ := by
  refine ⟨⟨by decide,by decide,by decide⟩,?_⟩
  intro sufficient
  exact sufficient.apart initrdAddr (by decide)

end Ktstr.MemorySizing
