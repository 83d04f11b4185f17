import Mathlib.Algebra.Order.Ring.Int
import Mathlib.Data.List.Basic

/-! Memories as functions of an address: storing a string of values, loading one, and
spreading a string over several extents so that it can be gathered again. -/
namespace Ktstr.Library.Scatter
open List Nat

variable {β : Type}

def store (memory : Nat → β) (start : Nat) (values : List β) : Nat → β :=
  fun address => if start ≤ address then (values[address - start]?).getD (memory address) else memory address

def load (memory : Nat → β) (start len : Nat) : List β := (List.range len).map fun offset => memory (start + offset)

abbrev Extent := Nat × Nat

def total (extents : List Extent) : Nat := (extents.map Prod.snd).sum

def Apart (first second : Extent) : Prop :=
  first.2 = 0 ∨ second.2 = 0 ∨ first.1 + first.2 ≤ second.1 ∨ second.1 + second.2 ≤ first.1

instance (first second : Extent) : Decidable (Apart first second) := inferInstanceAs (Decidable (_ ∨ _))

def gather (memory : Nat → β) (extents : List Extent) : List β :=
  extents.flatMap fun extent => load memory extent.1 extent.2

/-- Values placed in the extents in order, each filled before the next. -/
def scatter (memory : Nat → β) : List Extent → List β → Nat → β
  | [],_ => memory
  | extent::extents,values =>
    scatter (store memory extent.1 (values.take extent.2)) extents (values.drop extent.2)

variable (memory : Nat → β) (start : Nat)

@[simp] theorem store_nil : store memory start [] = memory := by
  funext address
  simp [store]

variable (extents : List Extent)

@[simp] theorem scatter_nil : scatter memory extents [] = memory := by
  induction extents with
  | nil => rfl
  | cons extent extents ih => simpa [scatter] using ih

variable (len : Nat)

@[simp] theorem load_length : (load memory start len).length = len := by
  simp [load]

theorem load_add (count : Nat) : load memory start (len + count) = load memory start len ++ load memory (start + len) count := by
  simp [load,range_add,add_assoc]

theorem load_drop_take (offset count : Nat) (inside : offset + count ≤ len) :
    ((load memory start len).drop offset).take count = load memory (start + offset) count := by
  apply ext_getElem
  · simp
    omega
  · intro index left right
    simp [load,add_assoc]

theorem gather_length : (gather memory extents).length = total extents := by
  simp [gather,total]

variable (address : Nat) (values : List β)

variable {memory start address values}

theorem store_outside (outside : address < start ∨ start + values.length ≤ address) :
    store memory start values address = memory address := by
  unfold store
  split
  · next low =>
    rw [getElem?_eq_none (by omega)]
    rfl
  · rfl

variable (start memory values)

theorem load_store (fits : values.length ≤ len) :
    (load (store memory start values) start len).take values.length = values := by
  apply ext_getElem
  · simp [fits]
  · intro index left right
    simp [load,store,getElem?_eq_getElem right]

variable (address)

theorem scatter_outside (address : Nat)
    (outside : ∀ extent ∈ extents, extent.2 = 0 ∨ address < extent.1 ∨ extent.1 + extent.2 ≤ address) :
    scatter memory extents values address = memory address := by
  induction extents generalizing memory values with
  | nil => rfl
  | cons extent extents ih =>
    obtain ⟨first,rest⟩ := forall_mem_cons.mp outside
    rw [scatter,ih _ _ rest]
    rcases first with empty | apart
    · simp [empty]
    · apply store_outside
      have := length_take_le extent.2 values
      omega

theorem load_scatter {extent : Extent} {extents : List Extent} {values : List β}
    (apart : ∀ other ∈ extents, Apart extent other) :
    load (scatter memory extents values) extent.1 extent.2 = load memory extent.1 extent.2 := by
  apply map_congr_left
  intro offset member
  have inside := List.mem_range.mp member
  apply scatter_outside
  intro other among
  have := apart other among
  unfold Apart at this
  omega

theorem gather_scatter (apart : extents.Pairwise Apart) :
    (gather (scatter memory extents values) extents).take values.length = values.take (total extents) := by
  induction extents generalizing memory values with
  | nil => simp [gather,total]
  | cons extent extents ih =>
    obtain ⟨first,rest⟩ := pairwise_cons.mp apart
    have here : gather (scatter memory (extent::extents) values) (extent::extents) =
        load (store memory extent.1 (values.take extent.2)) extent.1 extent.2 ++
          gather (scatter (store memory extent.1 (values.take extent.2)) extents (values.drop extent.2)) extents := by
      rw [gather,flatMap_cons,scatter,load_scatter _ first]
      rfl
    have tail := ih (store memory extent.1 (values.take extent.2)) (values.drop extent.2) rest
    have stored := load_store memory extent.1 extent.2 (values.take extent.2) (length_take_le _ _)
    have split : values.take (total (extent::extents)) =
        values.take extent.2 ++ (values.drop extent.2).take (total extents) := by
      simp [total,take_add]
    rw [here,split,take_append,load_length]
    rcases le_total extent.2 values.length with long | short
    · have full : (values.take extent.2).length = extent.2 := by simp [long]
      rw [full,take_of_length_le (le_of_eq (load_length _ _ _))] at stored
      rw [length_drop] at tail
      rw [take_of_length_le (by simp [long]),stored,tail]
    · rw [take_of_length_le short] at stored ⊢
      rw [stored]
      simp [short]

variable {extents}

theorem gather_scatter_take (apart : extents.Pairwise Apart) :
    (gather (scatter memory extents values) extents).take (min values.length (total extents)) =
      values.take (min values.length (total extents)) := by
  have size := gather_length (scatter memory extents values) extents
  rw [← size,← take_eq_take_min,gather_scatter memory extents values apart,size,min_comm,← take_eq_take_min]

def extentOf (write : Nat × List β) : Extent := (write.1,write.2.length)

def storeAll (memory : Nat → β) (writes : List (Nat × List β)) : Nat → β :=
  writes.foldl (fun memory write => store memory write.1 write.2) memory

theorem storeAll_outside {writes : List (Nat × List β)} {start len : Nat}
    (apart : ∀ write ∈ writes, Apart (start,len) (extentOf write)) :
    load (storeAll memory writes) start len = load memory start len := by
  induction writes generalizing memory with
  | nil => rfl
  | cons write writes ih =>
    obtain ⟨first,rest⟩ := forall_mem_cons.mp apart
    rw [storeAll,foldl_cons,← storeAll,ih _ rest]
    apply map_congr_left
    intro offset member
    have inside := List.mem_range.mp member
    rcases Nat.eq_zero_or_pos write.2.length with empty | filled
    · rw [eq_nil_of_length_eq_zero empty,store_nil]
    · apply store_outside
      unfold Apart extentOf at first
      omega

theorem load_storeAll {writes : List (Nat × List β)} (apart : (writes.map extentOf).Pairwise Apart) :
    ∀ write ∈ writes, load (storeAll memory writes) write.1 write.2.length = write.2 := by
  induction writes generalizing memory with
  | nil => simp
  | cons first writes ih =>
    obtain ⟨here,rest⟩ := pairwise_cons.mp apart
    intro write member
    rw [storeAll,foldl_cons,← storeAll]
    rcases mem_cons.mp member with rfl | later
    · rw [storeAll_outside _ fun other among => here _ (mem_map_of_mem among)]
      have stored := load_store memory write.1 write.2.length write.2 (le_refl _)
      rwa [take_of_length_le (le_of_eq (load_length _ _ _))] at stored
    · exact ih _ rest write later

theorem store_store (first second : List β) :
    store (store memory start first) (start + first.length) second = store memory start (first ++ second) := by
  funext address
  unfold store
  rcases lt_or_ge address start with low | high
  · rw [if_neg (by omega),if_neg (by omega),if_neg (by omega)]
  · rw [if_pos high]
    split
    · next later =>
      rw [getElem?_append_right (by omega),getElem?_eq_none (l := first) (by omega)]
      congr 2
      omega
    · next within => rw [getElem?_append_left (by omega)]

def tiles (start : Nat) : List Nat → List Extent
  | [] => []
  | len::lens => (start,len)::tiles (start + len) lens

theorem total_tiles (lens : List Nat) : total (tiles start lens) = lens.sum := by
  induction lens generalizing start with
  | nil => rfl
  | cons len lens ih =>
    have rest := ih (start + len)
    simp only [total] at rest
    simp only [tiles,total,map_cons,sum_cons,rest]

theorem scatter_tiles (lens : List Nat) (extents : List Extent) (values : List β) :
    scatter memory (tiles start lens ++ extents) values = scatter memory ((start,lens.sum)::extents) values := by
  induction lens generalizing memory start values with
  | nil => simp [tiles,scatter]
  | cons len lens ih =>
    rw [tiles,cons_append,scatter,ih,scatter,scatter,sum_cons,drop_drop]
    rcases le_total len values.length with long | short
    · have stored := store_store memory start (values.take len) ((values.drop len).take lens.sum)
      rw [length_take,min_eq_left long] at stored
      rw [stored,← take_add]
    · rw [drop_eq_nil_of_le short,take_nil,store_nil,take_of_length_le short,take_of_length_le (by omega)]

variable (extents)

def Covers (extents : List Extent) (address : Nat) : Prop :=
  ∃ extent ∈ extents, extent.1 ≤ address ∧ address < extent.1 + extent.2

instance (extents : List Extent) (address : Nat) : Decidable (Covers extents address) :=
  inferInstanceAs (Decidable (∃ extent ∈ extents, extent.1 ≤ address ∧ address < extent.1 + extent.2))

theorem store_eq_iff (first second : Nat → β) (start : Nat) (values others : List β) (same : values.length = others.length)
    (seen : Nat → Prop) :
    (∀ address, seen address → store first start values address = store second start others address) ↔
      (∀ address, seen address → address < start ∨ start + values.length ≤ address → first address = second address) ∧
        ∀ index, index < values.length → seen (start + index) → values[index]? = others[index]? := by
  constructor
  · intro agree
    refine ⟨?_,?_⟩
    · intro address sees outside
      have here := agree address sees
      rwa [store_outside outside,store_outside (same ▸ outside)] at here
    · intro index inside sees
      have here := agree (start + index) sees
      rw [store,store,if_pos (Nat.le_add_right _ _),if_pos (Nat.le_add_right _ _),Nat.add_sub_cancel_left,
        getElem?_eq_getElem inside,getElem?_eq_getElem (same ▸ inside)] at here
      rw [getElem?_eq_getElem inside,getElem?_eq_getElem (same ▸ inside)]
      exact congrArg some here
  · rintro ⟨outer,inner⟩ address sees
    by_cases inside : start ≤ address ∧ address < start + values.length
    · have shifted : start + (address - start) = address := by omega
      have equal := inner (address - start) (by omega) (by rwa [shifted])
      have bound : address - start < values.length := by omega
      rw [store,store,if_pos inside.1,if_pos inside.1,← equal,getElem?_eq_getElem bound]
      rfl
    · have outside : address < start ∨ start + values.length ≤ address := by omega
      rw [store_outside outside,store_outside (same ▸ outside)]
      exact outer address sees outside

variable {start values}

theorem store_cases : store memory start values address = memory address ∨
      (start ≤ address ∧ address < start + values.length ∧ store memory start values address ∈ values) := by
  rcases lt_or_ge address start with low | high
  · exact Or.inl (store_outside (Or.inl low))
  · rcases lt_or_ge address (start + values.length) with inside | beyond
    · have bound : address - start < values.length := by omega
      refine Or.inr ⟨high,inside,?_⟩
      rw [store,if_pos high,getElem?_eq_getElem bound]
      exact getElem_mem bound
    · exact Or.inl (store_outside (Or.inr beyond))

def Leading (room : Nat) : List Extent → Nat → Prop
  | [],_ => False
  | extent::extents,address =>
    (extent.1 ≤ address ∧ address < extent.1 + min room extent.2) ∨ Leading (room - extent.2) extents address

def Spares (addresses : Nat → Prop) : Nat → List Extent → Prop
  | _,[] => True
  | room,extent::extents =>
    (∀ address, extent.1 + min room extent.2 ≤ address → address < extent.1 + extent.2 → ¬ addresses address) ∧
      Spares addresses (room - extent.2) extents

theorem Leading.covered (room : Nat) (extents : List Extent) (address : Nat) (leading : Leading room extents address) :
    ∃ extent ∈ extents, extent.1 ≤ address ∧ address < extent.1 + extent.2 := by
  induction extents generalizing room with
  | nil => exact leading.elim
  | cons extent extents ih =>
    rcases leading with here | later
    · exact ⟨extent,mem_cons_self,here.1,by omega⟩
    · obtain ⟨other,among,inside⟩ := ih (room - extent.2) later
      exact ⟨other,mem_cons_of_mem _ among,inside⟩

theorem Spares.weaken (strong weak : Nat → Prop) (room : Nat) (extents : List Extent) (spares : Spares strong room extents)
    (weaker : ∀ extent ∈ extents, ∀ address, extent.1 ≤ address → address < extent.1 + extent.2 → weak address →
      strong address) : Spares weak room extents := by
  induction extents generalizing room with
  | nil => trivial
  | cons extent extents ih =>
    obtain ⟨first,rest⟩ := forall_mem_cons.mp weaker
    refine ⟨?_,ih (room - extent.2) spares.2 rest⟩
    intro address low high held
    exact spares.1 address low high (first address (by omega) high held)

theorem spares_leading (room : Nat) {extents : List Extent} (apart : extents.Pairwise Apart) :
    Spares (Leading room extents) room extents := by
  induction extents generalizing room with
  | nil => trivial
  | cons extent extents ih =>
    obtain ⟨first,rest⟩ := pairwise_cons.mp apart
    constructor
    · rintro address low high (here | later)
      · omega
      · obtain ⟨other,among,inside⟩ := later.covered
        have := first other among
        unfold Apart at this
        omega
    · apply (ih (room - extent.2) rest).weaken
      rintro other among address low high (here | later)
      · have := first other among
        unfold Apart at this
        omega
      · exact later

end Ktstr.Library.Scatter
