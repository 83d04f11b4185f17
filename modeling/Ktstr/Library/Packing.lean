import Ktstr.Library.Scatter

/-! Blocks laid one behind the other from a base address on. -/
namespace Ktstr.Library.Packing
open List Scatter

def pack (base : Nat) : List Nat → List Extent
  | [] => []
  | size::sizes => (base,size)::pack (base + size) sizes

def Covered (extents : List Extent) (address : Nat) : Prop :=
  ∃ extent ∈ extents, extent.1 ≤ address ∧ address < extent.1 + extent.2

theorem covered_cons (extent : Extent) (extents : List Extent) (address : Nat) :
    Covered (extent::extents) address ↔
      (extent.1 ≤ address ∧ address < extent.1 + extent.2) ∨ Covered extents address := by
  simp [Covered]

variable (base : Nat) (sizes : List Nat)

theorem covered_pack (address : Nat) :
    Covered (pack base sizes) address ↔ base ≤ address ∧ address < base + sizes.sum := by
  induction sizes generalizing base with
  | nil =>
    simp only [pack,Covered,not_mem_nil,false_and,exists_false,false_iff,sum_nil]
    omega
  | cons size sizes ih =>
    rw [pack,covered_cons,ih,sum_cons]
    omega

theorem pack_above : ∀ extent ∈ pack base sizes, base ≤ extent.1 := by
  induction sizes generalizing base with
  | nil => simp [pack]
  | cons size sizes ih =>
    intro extent member
    rcases mem_cons.mp member with rfl | later
    · exact Nat.le_refl base
    · exact Nat.le_trans (Nat.le_add_right base size) (ih (base + size) extent later)

theorem pack_below : ∀ extent ∈ pack base sizes, extent.1 + extent.2 ≤ base + sizes.sum := by
  induction sizes generalizing base with
  | nil => simp [pack]
  | cons size sizes ih =>
    intro extent member
    rw [sum_cons]
    rcases mem_cons.mp member with rfl | later
    · simp only
      omega
    · have := ih (base + size) extent later
      omega

theorem pack_apart : (pack base sizes).Pairwise Apart := by
  induction sizes generalizing base with
  | nil => exact List.Pairwise.nil
  | cons size sizes ih =>
    refine pairwise_cons.mpr ⟨?_,ih (base + size)⟩
    intro other later
    exact Or.inr (Or.inr (Or.inl (pack_above (base + size) sizes other later)))

theorem pack_contiguous : (pack base sizes).IsChain fun extent next => next.1 = extent.1 + extent.2 := by
  induction sizes generalizing base with
  | nil => exact List.IsChain.nil
  | cons size sizes ih =>
    have rest := ih (base + size)
    cases sizes with
    | nil => exact List.IsChain.singleton _
    | cons next sizes => exact List.IsChain.cons_cons rfl rest

theorem pack_ascending (positive : ∀ size ∈ sizes, 0 < size) :
    (pack base sizes).Pairwise fun extent later => extent.1 < later.1 := by
  induction sizes generalizing base with
  | nil => exact List.Pairwise.nil
  | cons size sizes ih =>
    refine pairwise_cons.mpr ⟨?_,ih (base + size) fun other member => positive other (mem_cons_of_mem _ member)⟩
    intro later member
    have above := pack_above (base + size) sizes later member
    have here := positive size mem_cons_self
    omega

theorem pack_split {address : Nat} (low : base ≤ address) (high : address < base + sizes.sum) :
    ∃ before extent after, pack base sizes = before ++ extent::after ∧ extent.1 ≤ address ∧
      address < extent.1 + extent.2 ∧ (∀ earlier ∈ before, earlier.1 + earlier.2 ≤ address) ∧
        ∀ later ∈ after, address < later.1 := by
  induction sizes generalizing base with
  | nil =>
    rw [sum_nil] at high
    omega
  | cons size sizes ih =>
    rw [sum_cons] at high
    rcases Nat.lt_or_ge address (base + size) with here | later
    · refine ⟨[],(base,size),pack (base + size) sizes,rfl,low,here,by simp,?_⟩
      intro extent member
      exact Nat.lt_of_lt_of_le here (pack_above (base + size) sizes extent member)
    · obtain ⟨before,extent,after,split,start,stop,below,above⟩ := ih (base + size) later (by omega)
      refine ⟨(base,size)::before,extent,after,by rw [pack,split,cons_append],start,stop,?_,above⟩
      intro earlier member
      rcases mem_cons.mp member with rfl | among
      · exact later
      · exact below earlier among

end Ktstr.Library.Packing
