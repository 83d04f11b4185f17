import Mathlib.Data.Nat.Bitwise
import Mathlib.Tactic.Ring
import Ktstr.Source.Cpuid

/-! APIC ids as numbers in mixed radix: LLC, core and thread, each in a field of bits that holds it. -/
namespace Ktstr.ApicIds
open Source.VmTopology Source.Cpuid Nat

theorem le_pow_bitsNeeded (n : Nat) : n ≤ 2 ^ bitsNeeded n := by
  unfold bitsNeeded
  split
  · next small => simpa using small
  · have := lt_log2_self (n := n - 1)
    omega

theorem pow_bitsNeeded_le {n : Nat} (positive : 0 < n) : 2 ^ bitsNeeded n ≤ 2 * n := by
  unfold bitsNeeded
  split
  · omega
  · have := log2_self_le (n := n - 1) (by omega)
    omega

theorem bitsNeeded_pow (bits : Nat) : bitsNeeded (2 ^ bits) = bits := by
  unfold bitsNeeded
  split
  · next small =>
    rcases Nat.eq_zero_or_pos bits with zero | positive
    · exact zero.symm
    · have two := Nat.pow_le_pow_right (show 0 < 2 by decide) positive
      omega
  · next large =>
    obtain ⟨less,rfl⟩ : ∃ less, bits = less + 1 := by
      apply exists_eq_succ_of_ne_zero
      intro zero
      rw [zero] at large
      exact large (le_refl 1)
    rw [succ_inj,log2_eq_iff (by omega)]
    omega

theorem shlU32_of_fits {value amount : Nat} (fits : (value + 1) * 2 ^ amount ≤ u32Span) :
    shlU32 value amount = value * 2 ^ amount := by
  have pow : 2 ^ amount ≤ 2 ^ 32 := (Nat.le_mul_of_pos_left _ (Nat.succ_pos value)).trans fits
  rcases lt_or_ge amount 32 with low | high
  · rw [shlU32,mod_eq_of_lt low,shiftLeft_eq]
    refine mod_eq_of_lt (lt_of_lt_of_le ?_ fits)
    exact Nat.mul_lt_mul_of_pos_right (Nat.lt_succ_self value) (Nat.two_pow_pos amount)
  · have exact : amount = 32 := Nat.le_antisymm ((Nat.pow_le_pow_iff_right (by decide)).mp pow) high
    have none : value = 0 := by
      rw [exact,u32Span] at fits
      omega
    rw [none,shlU32,zero_shiftLeft,zero_mul]
    rfl

theorem or_digits {llc core thread coreBits threadBits : Nat} (coreLow : core < 2 ^ coreBits)
    (threadLow : thread < 2 ^ threadBits) :
    llc * 2 ^ (coreBits + threadBits) ||| core * 2 ^ threadBits ||| thread =
      llc * 2 ^ (coreBits + threadBits) + (core * 2 ^ threadBits + thread) := by
  have inner : core * 2 ^ threadBits ||| thread = core * 2 ^ threadBits + thread := by
    rw [← shiftLeft_eq,shiftLeft_add_eq_or_of_lt threadLow]
  have bound : core * 2 ^ threadBits + thread < 2 ^ (coreBits + threadBits) := by
    rw [pow_add]
    calc core * 2 ^ threadBits + thread < core * 2 ^ threadBits + 2 ^ threadBits := by omega
      _ = (core + 1) * 2 ^ threadBits := (succ_mul _ _).symm
      _ ≤ 2 ^ coreBits * 2 ^ threadBits := mul_le_mul_right _ coreLow
  rw [Nat.or_assoc,inner,← Nat.shiftLeft_eq llc,Nat.shiftLeft_add_eq_or_of_lt bound]

theorem apicId_eq {topo : Topology} {cpuId : Nat} (cores : 0 < topo.coresPerLlc) (threads : 0 < topo.threadsPerCore)
    (perLlc : topo.threadsPerCore * topo.coresPerLlc < u32Span)
    (fits : (cpuId / (topo.threadsPerCore * topo.coresPerLlc) + 1) *
      2 ^ (bitsNeeded topo.coresPerLlc + bitsNeeded topo.threadsPerCore) ≤ u32Span) :
    apicId topo cpuId = cpuId / (topo.threadsPerCore * topo.coresPerLlc) *
        2 ^ (bitsNeeded topo.coresPerLlc + bitsNeeded topo.threadsPerCore) +
      (cpuId / topo.threadsPerCore % topo.coresPerLlc * 2 ^ bitsNeeded topo.threadsPerCore +
        cpuId % topo.threadsPerCore) := by
  have coreLow := (mod_lt (cpuId / topo.threadsPerCore) cores).trans_le (le_pow_bitsNeeded topo.coresPerLlc)
  have threadLow := (mod_lt cpuId threads).trans_le (le_pow_bitsNeeded topo.threadsPerCore)
  simp only [apicId,Topology.decompose]
  rw [wrapU32,mod_eq_of_lt perLlc]
  have coreFits : (cpuId / topo.threadsPerCore % topo.coresPerLlc + 1) * 2 ^ bitsNeeded topo.threadsPerCore ≤ u32Span := by
    have digit := mul_le_mul_right (2 ^ bitsNeeded topo.threadsPerCore) (succ_le_of_lt coreLow)
    rw [← pow_add] at digit
    exact (digit.trans (Nat.le_mul_of_pos_left _ (Nat.succ_pos _))).trans fits
  rw [shlU32_of_fits fits,shlU32_of_fits coreFits,or_digits coreLow threadLow]

end Ktstr.ApicIds
