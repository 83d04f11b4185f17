import Mathlib.Algebra.Order.Group.Int

/-! Fixed-width integers as bounded integers: ranges, saturation and wrapping. -/
namespace Ktstr.Library.Machine

def i64Max : Int := 9223372036854775807

def i64Min : Int := -9223372036854775808

def u64Max : Nat := 18446744073709551615

def saturateI64 (value : Int) : Int := max i64Min (min value i64Max)

def wrapI64 (value : Int) : Int := (value - i64Min) % 18446744073709551616 + i64Min

def tryI64 (value : Nat) : Option Int := if (value : Int) ≤ i64Max then some value else none

theorem saturateI64_of_range {value : Int} (low : i64Min ≤ value) (high : value ≤ i64Max) :
    saturateI64 value = value := by
  rw [saturateI64,min_eq_left high,max_eq_right low]

theorem saturateI64_min {value cap : Int} (low : i64Min ≤ value) (fits : cap ≤ i64Max) :
    min (saturateI64 value) cap = min value cap := by
  simp only [saturateI64] at *
  omega

theorem wrapI64_of_range {value : Int} (low : i64Min ≤ value) (high : value ≤ i64Max) : wrapI64 value = value := by
  simp only [wrapI64,i64Min,i64Max] at *
  omega

end Ktstr.Library.Machine
