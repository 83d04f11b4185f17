import Mathlib.Algebra.BigOperators.Group.List.Basic
import Mathlib.Data.List.MinMax
import Mathlib.Data.Prod.Lex
import Ktstr.Source.Budget

/-! Greedy selection of tests: within the budget, not extensible, and the same for every order of the candidates. -/
namespace Ktstr.BudgetSelection
open List Source.Budget

def chosen (candidates : List TestCandidate) (selected : List Nat) : List TestCandidate :=
  selected.map fun i => candidates.getD i ⟨"",0#64,0⟩

def Adds (covered : BitVec 64) (c : TestCandidate) : Prop := c.features &&& ~~~covered ≠ 0#64

structure Sound (candidates : List TestCandidate) (budget : ℚ) : Prop where
  ascending : (select candidates budget).Pairwise (· < ·)
  inRange : ∀ i ∈ select candidates budget, i < candidates.length
  withinBudget : (selectionStats candidates (select candidates budget) budget).budgetUsed ≤ budget
  maximal : ∀ i c, candidates[i]? = some c → i ∉ select candidates budget →
    c.estimatedSecs > budget - totalCost (chosen candidates (select candidates budget)) ∨
    ¬ Adds (coverage (chosen candidates (select candidates budget))) c
  picked : (picks candidates budget).Perm (select candidates budget)
  fresh : ∀ before i after, picks candidates budget = before ++ i :: after →
    Adds (coverage (chosen candidates before)) (candidates.getD i ⟨"",0#64,0⟩)
  few : (select candidates budget).length ≤ 64
  orderFree : ∀ others : List TestCandidate, others.Perm candidates → ∀ name,
    name ∈ (chosen others (select others budget)).map TestCandidate.name ↔
      name ∈ (chosen candidates (select candidates budget)).map TestCandidate.name

/-! Bits. -/

theorem countOnes_eq_zero {bits : BitVec 64} : countOnes bits = 0 ↔ bits = 0#64 := by
  rw [countOnes,Finset.card_eq_zero,Finset.filter_eq_empty_iff]
  constructor
  · intro none
    apply BitVec.eq_of_getLsbD_eq
    intro i inside
    rw [BitVec.getLsbD_zero]
    exact Bool.eq_false_of_not_eq_true (none (Finset.mem_range.mpr inside))
  · rintro rfl i _
    simp

theorem countOnes_le {bits : BitVec 64} : countOnes bits ≤ 64 :=
  (Finset.card_filter_le ..).trans_eq (Finset.card_range 64)

variable {covered : BitVec 64} {c : TestCandidate}

theorem adds_iff : Adds covered c ↔ marginal covered c ≠ 0 := by
  rw [Adds,marginal,Ne,Ne,countOnes_eq_zero]

theorem countOnes_or_lt (adds : Adds covered c) : countOnes covered < countOnes (covered ||| c.features) := by
  rw [adds_iff,marginal,countOnes,Finset.card_ne_zero] at adds
  obtain ⟨i,new⟩ := adds
  obtain ⟨inside,bit⟩ := Finset.mem_filter.mp new
  rw [BitVec.getLsbD_and,BitVec.getLsbD_not,Bool.and_eq_true,Bool.and_eq_true] at bit
  apply Finset.card_lt_card
  refine Finset.ssubset_iff_of_subset ?_ |>.mpr ⟨i,?_,?_⟩
  · intro j covered_bit
    obtain ⟨within,bit⟩ := Finset.mem_filter.mp covered_bit
    exact Finset.mem_filter.mpr ⟨within,by rw [BitVec.getLsbD_or,bit,Bool.true_or]⟩
  · exact Finset.mem_filter.mpr ⟨inside,by rw [BitVec.getLsbD_or,bit.1,Bool.or_true]⟩
  · intro old
    rw [(Finset.mem_filter.mp old).2] at bit
    exact absurd bit.2.2 (by simp)

theorem foldl_or (candidates : List TestCandidate) (start : BitVec 64) :
    candidates.foldl (fun covered c => covered ||| c.features) start = start ||| coverage candidates := by
  induction candidates generalizing start with
  | nil => simp [coverage]
  | cons c candidates ih =>
    rw [coverage,foldl_cons,foldl_cons,ih,ih (0#64 ||| c.features),BitVec.zero_or,BitVec.or_assoc]

variable (first : List TestCandidate)

theorem coverage_append (second : List TestCandidate) :
    coverage (first ++ second) = coverage first ||| coverage second := by
  rw [coverage,foldl_append,foldl_or]
  rfl

theorem totalCost_eq_sum (candidates : List TestCandidate) :
    totalCost candidates = (candidates.map TestCandidate.estimatedSecs).sum := by
  rw [totalCost,sum_eq_foldl,foldl_map]

/-! One turn: the best of the candidates still open. -/

def Open (covered : BitVec 64) (remaining : ℚ) (c : TestCandidate) : Prop :=
  c.estimatedSecs ≤ remaining ∧ marginal covered c ≠ 0

def rank (covered : BitVec 64) (c : TestCandidate) : ℚ ×ₗ Stringᵒᵈ :=
  toLex (ratio covered c,OrderDual.toDual c.name)

theorem rank_lt {best : TestCandidate} : rank covered best < rank covered c ↔
      ratio covered c > ratio covered best ∨ ratio covered c = ratio covered best ∧ c.name < best.name := by
  rw [rank,rank,Prod.Lex.toLex_lt_toLex,eq_comm]
  rfl

theorem ratio_pos (adds : marginal covered c ≠ 0) : 0 < ratio covered c := by
  have some_bits : (0 : ℚ) < marginal covered c := by exact_mod_cast Nat.pos_of_ne_zero adds
  rw [ratio]
  split
  next costly => exact div_pos some_bits costly
  next => exact mul_pos some_bits (by decide)

private def eligible (state : Picking) (entry : TestCandidate × Nat) : Bool :=
  !state.used.getD entry.2 false && decide (entry.1.estimatedSecs ≤ state.remainingBudget) &&
    decide (marginal state.covered entry.1 ≠ 0)

theorem consider_eq (state : Picking) (best : Best) (entry : TestCandidate × Nat) :
    consider state best entry =
      if eligible state entry then
        if ratio state.covered entry.1 > best.ratio ∨ ratio state.covered entry.1 = best.ratio ∧ entry.1.name < best.name then
          ⟨some entry.2,ratio state.covered entry.1,entry.1.name⟩
        else best
      else best := by
  rw [consider,eligible]
  cases state.used.getD entry.2 false with
  | true => rfl
  | false =>
    by_cases dear : entry.1.estimatedSecs > state.remainingBudget
    · rw [if_pos (.inr dear),decide_eq_false (not_le.mpr dear)]
      rfl
    · rw [if_neg (by simpa using dear),decide_eq_true (not_lt.mp dear)]
      by_cases idle : marginal state.covered entry.1 = 0
      · simp [idle]
      · simp [idle]

def found (covered : BitVec 64) : Option (TestCandidate × Nat) → Best
  | some entry => ⟨some entry.2,ratio covered entry.1,entry.1.name⟩
  | none => {}

theorem foldl_consider (state : Picking) (entries : List (TestCandidate × Nat)) :
    entries.foldl (consider state) {} =
      found state.covered ((entries.filter (eligible state)).argmax fun entry => rank state.covered entry.1) := by
  induction entries using List.reverseRecOn with
  | nil => rfl
  | append_singleton entries entry ih =>
    rw [foldl_append,ih,foldl_cons,consider_eq,filter_append]
    cases open_ : eligible state entry with
    | false => simp [open_]
    | true =>
      have adds : marginal state.covered entry.1 ≠ 0 := by
        rw [eligible,Bool.and_eq_true,decide_eq_true_eq] at open_
        exact open_.2
      rw [if_pos rfl,filter_cons_of_pos open_,filter_nil,argmax_concat]
      cases (entries.filter (eligible state)).argmax fun entry => rank state.covered entry.1 with
      | none => exact if_pos (.inl (ratio_pos adds))
      | some best =>
        by_cases better : rank state.covered best.1 < rank state.covered entry.1
        · refine (if_pos (rank_lt.mp better)).trans ?_
          simp only [if_pos better]
          rfl
        · refine (if_neg (mt rank_lt.mpr better)).trans ?_
          simp only [if_neg better]

theorem findBest_eq (candidates : List TestCandidate) (state : Picking) :
    findBest candidates state =
      ((candidates.zipIdx.filter (eligible state)).argmax fun entry => rank state.covered entry.1).map Prod.snd := by
  rw [findBest,foldl_consider]
  cases (candidates.zipIdx.filter (eligible state)).argmax fun entry => rank state.covered entry.1 <;> rfl

/-! A run of the loop. -/

structure Picked (candidates : List TestCandidate) (budget : ℚ) (state : Picking) : Prop where
  size : state.used.length = candidates.length
  used : ∀ i, state.used.getD i false = true ↔ i ∈ state.selected
  nodup : state.selected.Nodup
  inRange : ∀ i ∈ state.selected, i < candidates.length
  covered : state.covered = coverage (chosen candidates state.selected)
  remaining : state.remainingBudget = budget - totalCost (chosen candidates state.selected)
  affordable : 0 ≤ state.remainingBudget
  fresh : ∀ before i after, state.selected = before ++ i :: after →
    Adds (coverage (chosen candidates before)) (candidates.getD i ⟨"",0#64,0⟩)
  few : state.selected.length ≤ countOnes state.covered

variable {candidates : List TestCandidate} {budget : ℚ} {state : Picking}

theorem marginal_covered (done : covered ||| c.features = covered) : marginal covered c = 0 := by
  rw [marginal,countOnes_eq_zero,← done]
  apply BitVec.eq_of_getLsbD_eq
  intro i inside
  simp only [BitVec.getLsbD_and,BitVec.getLsbD_not,BitVec.getLsbD_or,inside,decide_true]
  cases c.features.getLsbD i <;> simp

theorem Picked.marginal_used (was : Picked candidates budget state) {i : Nat} {c : TestCandidate}
    (here : candidates[i]? = some c) (used : i ∈ state.selected) : marginal state.covered c = 0 := by
  obtain ⟨before,after,split⟩ := append_of_mem used
  apply marginal_covered
  have member : candidates.getD i ⟨"",0#64,0⟩ = c := by rw [getD_eq_getElem?_getD,here,Option.getD_some]
  rw [was.covered,split,chosen,map_append,map_cons,member,coverage_append,← singleton_append,coverage_append]
  have single : coverage [c] = c.features := BitVec.zero_or
  rw [single]
  apply BitVec.eq_of_getLsbD_eq
  intro j inside
  simp only [BitVec.getLsbD_or]
  cases c.features.getLsbD j <;> simp

theorem Picked.eligible_iff (was : Picked candidates budget state) {i : Nat} {c : TestCandidate}
    (here : candidates[i]? = some c) :
    eligible state (c,i) ↔ Open state.covered state.remainingBudget c := by
  rw [eligible,Bool.and_eq_true,Bool.and_eq_true,decide_eq_true_eq,decide_eq_true_eq,Bool.not_eq_true']
  constructor
  · rintro ⟨⟨_,cheap⟩,adds⟩
    exact ⟨cheap,adds⟩
  · rintro ⟨cheap,adds⟩
    refine ⟨⟨Bool.eq_false_of_not_eq_true fun used => ?_,cheap⟩,adds⟩
    exact adds (was.marginal_used here ((was.used i).mp used))

theorem mem_zipIdx_iff {i : Nat} : (c,i) ∈ candidates.zipIdx ↔ candidates[i]? = some c := by
  rw [mk_mem_zipIdx_iff_getElem?]

theorem Picked.findBest_none (was : Picked candidates budget state) :
    findBest candidates state = none ↔ ∀ c ∈ candidates, ¬ Open state.covered state.remainingBudget c := by
  rw [findBest_eq,Option.map_eq_none_iff,argmax_eq_none,filter_eq_nil_iff]
  constructor
  · intro none c inside affordable
    obtain ⟨i,here⟩ := mem_iff_getElem?.mp inside
    exact none (c,i) (mem_zipIdx_iff.mpr here) ((was.eligible_iff here).mpr affordable)
  · rintro none ⟨c,i⟩ inside open_
    have here := mem_zipIdx_iff.mp inside
    exact none c (mem_of_getElem? here) ((was.eligible_iff here).mp open_)

theorem Picked.findBest_some (was : Picked candidates budget state) {i : Nat}
    (best : findBest candidates state = some i) :
    ∃ c, candidates[i]? = some c ∧ Open state.covered state.remainingBudget c ∧
      ∀ d ∈ candidates, Open state.covered state.remainingBudget d → rank state.covered d ≤ rank state.covered c := by
  rw [findBest_eq,Option.map_eq_some_iff] at best
  obtain ⟨⟨c,_⟩,top,rfl⟩ := best
  obtain ⟨inside,open_⟩ := mem_filter.mp (argmax_mem top)
  have here := mem_zipIdx_iff.mp inside
  refine ⟨c,here,(was.eligible_iff here).mp open_,fun d member affordable => ?_⟩
  obtain ⟨j,there⟩ := mem_iff_getElem?.mp member
  have listed := mem_filter.mpr ⟨mem_zipIdx_iff.mpr there,(was.eligible_iff there).mpr affordable⟩
  have below := le_of_mem_argmax listed top
  exact below

theorem chosen_concat {selected : List Nat} {i : Nat} {c : TestCandidate} (here : candidates[i]? = some c) :
    chosen candidates (selected ++ [i]) = chosen candidates selected ++ [c] := by
  rw [chosen,map_append,map_singleton,getD_eq_getElem?_getD,here]
  rfl

theorem totalCost_concat (c : TestCandidate) : totalCost (first ++ [c]) = totalCost first + c.estimatedSecs := by
  rw [totalCost,foldl_append]
  rfl

theorem coverage_concat (c : TestCandidate) : coverage (first ++ [c]) = coverage first ||| c.features := by
  rw [coverage,foldl_append]
  rfl

theorem take_eq {state : Picking} {i : Nat} {c : TestCandidate} (here : candidates[i]? = some c) :
    take candidates state i = ⟨state.selected ++ [i],state.used.set i true,state.covered ||| c.features,
      state.remainingBudget - c.estimatedSecs⟩ := by
  rw [Source.Budget.take,getD_eq_getElem?_getD,here,Option.getD_some]

theorem Picked.take (was : Picked candidates budget state) {i : Nat} {c : TestCandidate}
    (here : candidates[i]? = some c) (affordable : Open state.covered state.remainingBudget c) :
    Picked candidates budget (take candidates state i) := by
  have unused : i ∉ state.selected := fun used => affordable.2 (was.marginal_used here used)
  have within : i < candidates.length := (List.getElem?_eq_some_iff.mp here).1
  have adds : Adds state.covered c := adds_iff.mpr affordable.2
  rw [take_eq here]
  refine ⟨?_,?_,?_,?_,?_,?_,?_,?_,?_⟩
  · rw [length_set,was.size]
  · intro j
    rw [getD_eq_getElem?_getD,getElem?_set,mem_append]
    by_cases same : i = j
    · rw [if_pos same,if_pos (by rwa [was.size])]
      simp [same]
    · rw [if_neg same,← getD_eq_getElem?_getD,was.used j]
      simp [Ne.symm same]
  · exact nodup_append.mpr ⟨was.nodup,nodup_singleton i,by
      intro j inside k single same
      rw [mem_singleton.mp single] at same
      exact unused (same ▸ inside)⟩
  · exact forall_mem_append.mpr ⟨was.inRange,forall_mem_singleton.mpr within⟩
  · rw [chosen_concat here,coverage_concat,← was.covered]
  · rw [chosen_concat here,totalCost_concat,was.remaining,sub_sub]
  · exact sub_nonneg.mpr affordable.1
  · intro before j after split
    rcases eq_nil_or_concat after with rfl | ⟨rest,last,rfl⟩
    · obtain ⟨same,single⟩ := append_inj' split rfl
      rw [← same,← was.covered,← head_eq_of_cons_eq single,getD_eq_getElem?_getD,here]
      exact adds
    · rw [concat_eq_append,← cons_append,← append_assoc] at split
      exact was.fresh before j rest (append_inj_left' split rfl)
  · rw [length_append]
    exact Nat.succ_le_of_lt (was.few.trans_lt (countOnes_or_lt adds))

theorem picked_opening {candidates : List TestCandidate} {budget : ℚ} (pos : 0 < budget) :
    Picked candidates budget (opening candidates budget) := by
  refine ⟨length_replicate,?_,nodup_nil,by simp [opening],rfl,?_,pos.le,?_,Nat.zero_le _⟩
  · intro i
    simp only [opening,getD_eq_getElem?_getD,getElem?_replicate]
    split <;> simp
  · exact (sub_zero budget).symm
  · intro before i after split
    simp [opening] at split

theorem Picked.exhausted (was : Picked candidates budget state)
    (all : candidates.length ≤ state.selected.length) : findBest candidates state = none := by
  have listed : state.selected ⊆ List.range candidates.length := fun i inside => List.mem_range.mpr (was.inRange i inside)
  have perm := (was.nodup.subperm listed).perm_of_length_le (by simpa using all)
  rw [was.findBest_none]
  intro c inside affordable
  obtain ⟨i,here⟩ := mem_iff_getElem?.mp inside
  have used : i ∈ state.selected := perm.mem_iff.mpr (List.mem_range.mpr (List.getElem?_eq_some_iff.mp here).1)
  exact affordable.2 (was.marginal_used here used)

theorem Picked.pickLoop (turns : Nat) (was : Picked candidates budget state)
    (enough : candidates.length ≤ state.selected.length + turns) :
    Picked candidates budget (pickLoop candidates turns state) ∧
      findBest candidates (Source.Budget.pickLoop candidates turns state) = none := by
  induction turns generalizing state with
  | zero => exact ⟨was,was.exhausted enough⟩
  | succ turns ih =>
    rw [Source.Budget.pickLoop]
    cases best : findBest candidates state with
    | none => exact ⟨was,best⟩
    | some i =>
      obtain ⟨c,here,affordable,_⟩ := was.findBest_some best
      refine ih (was.take here affordable) ?_
      rw [take_eq here,length_append,length_singleton]
      omega

/-! Two orders of the same candidates. -/

structure Alike (candidates others : List TestCandidate) (state other : Picking) : Prop where
  covered : state.covered = other.covered
  remaining : state.remainingBudget = other.remainingBudget
  chosen : chosen candidates state.selected = chosen others other.selected

theorem rank_injective {d : TestCandidate} (distinct : (candidates.map TestCandidate.name).Nodup)
    (one : c ∈ candidates) (two : d ∈ candidates) (same : rank covered c = rank covered d) : c = d := by
  have names : c.name = d.name :=
    congrArg (fun key : ℚ ×ₗ Stringᵒᵈ => OrderDual.ofDual (ofLex key).2) same
  exact inj_on_of_nodup_map distinct one two names

theorem pickLoop_alike {turns : Nat} {others : List TestCandidate} {other : Picking}
    (distinct : (candidates.map TestCandidate.name).Nodup) (perm : others.Perm candidates)
    (was : Picked candidates budget state) (was' : Picked others budget other) (alike : Alike candidates others state other) :
    Alike candidates others (pickLoop candidates turns state) (pickLoop others turns other) := by
  induction turns generalizing state other with
  | zero => exact alike
  | succ turns ih =>
    rw [pickLoop,pickLoop]
    cases best : findBest candidates state with
    | none =>
      have none' : findBest others other = none := by
        rw [was'.findBest_none]
        intro c inside
        rw [← alike.covered,← alike.remaining]
        exact was.findBest_none.mp best c (perm.mem_iff.mp inside)
      rw [none']
      exact alike
    | some i =>
      obtain ⟨c,here,affordable,top⟩ := was.findBest_some best
      cases best' : findBest others other with
      | none =>
        have none' := was'.findBest_none.mp best' c (perm.mem_iff.mpr (mem_of_getElem? here))
        rw [← alike.covered,← alike.remaining] at none'
        exact absurd affordable none'
      | some j =>
        obtain ⟨d,there,affordable',top'⟩ := was'.findBest_some best'
        rw [← alike.covered,← alike.remaining] at top'
        have inside : d ∈ candidates := perm.mem_iff.mp (mem_of_getElem? there)
        have open_ : Open state.covered state.remainingBudget d := by
          rw [alike.covered,alike.remaining]
          exact affordable'
        have same : c = d := by
          refine rank_injective distinct (mem_of_getElem? here) inside (le_antisymm ?_ (top d inside open_))
          exact top' c (perm.mem_iff.mpr (mem_of_getElem? here)) affordable
        subst same
        refine ih (was.take here affordable) (was'.take there affordable') ?_
        rw [take_eq here,take_eq there]
        refine ⟨?_,?_,?_⟩
        · rw [alike.covered]
        · rw [alike.remaining]
        · rw [chosen_concat here,chosen_concat there,alike.chosen]

theorem picks_eq {candidates : List TestCandidate} {budget : ℚ} (pos : 0 < budget) :
    picks candidates budget = (pickLoop candidates candidates.length (opening candidates budget)).selected := by
  cases candidates with
  | nil => rfl
  | cons c candidates =>
    rw [picks,if_neg]
    simpa using pos

theorem picks_perm (candidates : List TestCandidate) (budget : ℚ) :
    (picks candidates budget).Perm (select candidates budget) :=
  (perm_insertionSort _ _).symm

theorem chosen_perm (candidates : List TestCandidate) {selected sorted : List Nat} (perm : selected.Perm sorted) :
    (chosen candidates selected).Perm (chosen candidates sorted) :=
  perm.map _

theorem coverage_perm {first second : List TestCandidate} (perm : first.Perm second) :
    coverage first = coverage second := by
  refine perm.foldl_eq' (fun c _ d _ covered => ?_) _
  rw [BitVec.or_assoc,BitVec.or_assoc,BitVec.or_comm d.features]

theorem totalCost_perm {first second : List TestCandidate} (perm : first.Perm second) :
    totalCost first = totalCost second := by
  rw [totalCost_eq_sum,totalCost_eq_sum]
  exact (perm.map _).sum_eq

theorem chosen_picks_eq {others : List TestCandidate} (distinct : (candidates.map TestCandidate.name).Nodup)
    (perm : others.Perm candidates) (pos : 0 < budget) :
    chosen candidates (picks candidates budget) = chosen others (picks others budget) := by
  rw [picks_eq pos,picks_eq pos,perm.length_eq]
  refine (pickLoop_alike distinct perm (picked_opening pos) (picked_opening pos) ?_).chosen
  exact ⟨rfl,rfl,rfl⟩

theorem select_of_nonpos (candidates : List TestCandidate) (none : budget ≤ 0) : select candidates budget = [] := by
  rw [select,picks,if_pos (.inr none)]
  rfl

/-- For a positive budget the selection is sound, maximal and independent of the order of the candidates; without one
nothing is selected. -/
theorem select_sound (candidates : List TestCandidate) (budget : ℚ)
    (distinct : (candidates.map TestCandidate.name).Nodup) :
    (0 < budget → Sound candidates budget) ∧ (budget ≤ 0 → select candidates budget = []) := by
  refine ⟨fun pos => ?_,select_of_nonpos candidates⟩
  obtain ⟨was,done⟩ := (picked_opening pos).pickLoop candidates.length (Nat.le_add_left _ _)
  generalize final : pickLoop candidates candidates.length _ = state at was done
  have same : state.selected = picks candidates budget := by rw [picks_eq pos,final]
  have perm := picks_perm candidates budget
  have costs : state.remainingBudget = budget - totalCost (chosen candidates (select candidates budget)) := by
    rw [was.remaining,same,totalCost_perm (chosen_perm candidates perm)]
  have covers : state.covered = coverage (chosen candidates (select candidates budget)) := by
    rw [was.covered,same,coverage_perm (chosen_perm candidates perm)]
  refine ⟨?_,?_,?_,?_,perm,?_,?_,?_⟩
  · have nodup := perm.nodup_iff.mp (same ▸ was.nodup)
    have sorted : (select candidates budget).Pairwise (· ≤ ·) := pairwise_insertionSort _ _
    exact (sorted.and nodup).imp fun both => lt_of_le_of_ne both.1 both.2
  · intro i inside
    exact was.inRange i (same ▸ perm.mem_iff.mpr inside)
  · have left := was.affordable
    rw [costs] at left
    exact sub_nonneg.mp left
  · intro i c here _
    have closed := was.findBest_none.mp done c (mem_of_getElem? here)
    rw [Open,not_and_or,not_le,← adds_iff,costs,covers] at closed
    exact closed
  · rw [← same]
    exact was.fresh
  · have few := was.few.trans countOnes_le
    rwa [same,perm.length_eq] at few
  · intro others reordered name
    have alike := chosen_picks_eq distinct reordered pos
    have mine := ((chosen_perm candidates perm).map TestCandidate.name).mem_iff (a := name)
    have theirs := ((chosen_perm others (picks_perm others budget)).map TestCandidate.name).mem_iff (a := name)
    rw [← theirs,← alike,mine]

theorem two_candidates_sound : Sound [⟨"boot",1#64,1⟩,⟨"stress",3#64,1⟩] 1 :=
  (select_sound [⟨"boot",1#64,1⟩,⟨"stress",3#64,1⟩] 1 (by decide)).1 one_pos

/-- A free candidate is left out of a budget of zero, and no selection is within a negative one. -/
theorem no_budget_unsound : ¬ Sound [⟨"free",1#64,0⟩] 0 ∧ ¬ Sound [] (-1) := by
  refine ⟨fun sound => ?_,fun sound => ?_⟩
  · have closed := sound.maximal 0 ⟨"free",1#64,0⟩ rfl
    rw [select_of_nonpos _ (le_refl 0)] at closed
    rcases closed not_mem_nil with dear | idle
    · simp [chosen,totalCost] at dear
    · exact idle (by decide : (1#64 &&& ~~~0#64) ≠ 0#64)
  · have spent := sound.withinBudget
    exact absurd spent (by decide)

end Ktstr.BudgetSelection
