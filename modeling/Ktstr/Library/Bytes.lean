import Mathlib.Algebra.Order.Ring.Int
import Mathlib.Data.List.Basic

/-! Byte strings as little-endian words and half-open slices of them. -/
namespace Ktstr.Library.Bytes
open List

def leNat : List UInt8 → Nat
  | [] => 0
  | byte::rest => byte.toNat + 256 * leNat rest

def leU32 (bytes : List UInt8) : UInt32 := UInt32.ofNat (leNat bytes)

/-- The bytes `[start,stop)` of a string, clipped at its end. -/
def slice (bytes : List UInt8) (start stop : Nat) : List UInt8 := (bytes.drop start).take (stop - start)

theorem slice_eq {bytes : List UInt8} {start width : Nat} :
    slice bytes start (start + width) = (bytes.drop start).take width := by
  simp [slice]

/-- The byte at an address of a sparse image, given as little-endian words at multiples of eight. -/
def sparse (words : List (Nat × Nat)) (address : Nat) : UInt8 :=
  UInt8.ofNat ((words.lookup (address / 8 * 8)).getD 0 / 256 ^ (address % 8))

theorem leNat_digits (width value : Nat) :
    leNat ((range width).map fun i => UInt8.ofNat (value / 256 ^ i)) = value % 256 ^ width := by
  induction width generalizing value with
  | zero => simp [leNat,Nat.mod_one]
  | succ width ih =>
    have rest : ((range width).map Nat.succ).map (fun i => UInt8.ofNat (value / 256 ^ i)) =
        (range width).map fun i => UInt8.ofNat (value / 256 / 256 ^ i) := by
      rw [map_map]
      refine map_congr_left fun i _ => ?_
      rw [Function.comp_apply,Nat.div_div_eq_div_mul,Nat.pow_succ']
    rw [range_succ_eq_map,map_cons,leNat,rest,ih,Nat.pow_zero,Nat.pow_succ',Nat.mod_mul]
    simp

theorem leNat_sparse {words : List (Nat × Nat)} (small : ∀ word ∈ words, word.2 < 256 ^ 8) {address : Nat}
    (aligned : address % 8 = 0) :
    leNat ((range 8).map fun i => sparse words (address + i)) = (words.lookup address).getD 0 := by
  have fits : (words.lookup address).getD 0 < 256 ^ 8 := by
    cases found : words.lookup address with
    | none => exact Nat.pow_pos (by decide)
    | some value =>
      obtain ⟨before,after,rfl,-⟩ := lookup_eq_some_iff.mp found
      exact small (address,value) (by simp)
  have digits : ((range 8).map fun i => sparse words (address + i)) =
      (range 8).map fun i => UInt8.ofNat ((words.lookup address).getD 0 / 256 ^ i) := by
    refine map_congr_left fun i inside => ?_
    have bound := mem_range.mp inside
    have base : (address + i) / 8 * 8 = address := by omega
    have rest : (address + i) % 8 = i := by omega
    rw [sparse,base,rest]
  rw [digits,leNat_digits,Nat.mod_eq_of_lt fits]

end Ktstr.Library.Bytes
