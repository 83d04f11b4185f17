import Ktstr.Source.Reader

/-! Page-table walks and the cache in front of them. A walk depends on the page of an address alone, and the address
within the page is kept, so that one slot of 4 KiB stands for mappings of every size. -/
namespace Ktstr.PageWalks
open Library.Words Source.Reader Nat Option Aarch64WalkParams

def onPage (kva pa : Nat) : Nat := pa / 4096 * 4096 + kva % 4096

theorem leaf_onPage (mask bits : Nat) (large : 12 ≤ bits) (clear : mask % 2 ^ bits = 0) {kva other : Nat}
    (same : kva / 4096 = other / 4096) (entry : Nat) :
    (entry &&& mask) ||| (other &&& (2 ^ bits - 1)) = onPage other ((entry &&& mask) ||| (kva &&& (2 ^ bits - 1))) := by
  obtain ⟨aligned,sum⟩ := and_or_low clear
  have pages : 2 ^ bits = 4096 * 2 ^ (bits - 12) := by
    rw [show 4096 = 2 ^ 12 by rfl,← Nat.pow_add,Nat.add_sub_cancel' large]
  rw [sum,(and_or_low clear).2,pages]
  obtain ⟨page,start⟩ := (Dvd.intro _ pages.symm).trans aligned
  rw [onPage,mod_mul,mod_mul,same]
  omega

theorem shift_eq {kva other : Nat} (same : kva / 4096 = other / 4096) (bits : Nat) (large : 12 ≤ bits) :
    other >>> bits = kva >>> bits := by
  obtain ⟨more,rfl⟩ := Nat.exists_eq_add_of_le large
  rw [shiftRight_add,shiftRight_add,shiftRight_eq_div_pow other,shiftRight_eq_div_pow kva]
  exact congrArg (· >>> more) same.symm

def vaWidth (tcrEl1 : Nat) : Nat := 64 - ((tcrEl1 >>> 16) &&& 0x3F)

structure Decoded (tcrEl1 : Nat) (params : Aarch64WalkParams) : Prop where
  granule : params.stride = 9 ∨ params.stride = 11 ∨ params.stride = 13
  start : params.startLevel ≤ 3
  narrow : vaWidth tcrEl1 < 64
  least : params.stride * (4 - params.startLevel) + 4 ≤ vaWidth tcrEl1
  most : vaWidth tcrEl1 < params.stride * (4 - params.startLevel) + 4 + params.stride
  first : params.firstIndexmask = 2 ^ (vaWidth tcrEl1 - params.stride * (4 - params.startLevel)) - 1
  grain : params.indexmaskGrainsize = 2 ^ (params.stride + 3) - 1
  output : params.descaddrmask = (2 ^ 50 - 1) &&& flip (2 ^ (params.stride + 3) - 1)

theorem decoded_of_fromTcrEl1 {tcrEl1 : Nat} {params : Aarch64WalkParams}
    (decoded : fromTcrEl1 tcrEl1 = some params) : Decoded tcrEl1 params := by
  cases granule : granuleStride ((tcrEl1 >>> 30) &&& 0x3) with
  | none => simp [fromTcrEl1,granule] at decoded
  | some stride =>
    have strides : stride = 9 ∨ stride = 11 ∨ stride = 13 := by
      unfold granuleStride at granule
      split at granule <;> cases granule <;> simp
    simp only [fromTcrEl1,granule] at decoded
    split_ifs at decoded with zero lpa2 sized tiny levels
    have narrow : vaWidth tcrEl1 < 64 := Nat.sub_lt (by decide) (Nat.pos_of_ne_zero sized)
    obtain ⟨some,few⟩ := not_or.mp levels
    have quotient := div_add_mod (vaWidth tcrEl1 - 4) stride
    have remainder := mod_lt (vaWidth tcrEl1 - 4) (show 0 < stride by omega)
    have back : 4 - (4 - (vaWidth tcrEl1 - 4) / stride) = (vaWidth tcrEl1 - 4) / stride :=
      Nat.sub_sub_self (Nat.le_of_not_lt few)
    change ¬ vaWidth tcrEl1 < 4 at tiny
    obtain rfl := Option.some.inj decoded
    constructor
    · exact strides
    · exact Nat.sub_le_sub_left (Nat.one_le_iff_ne_zero.mpr some) 4
    · exact narrow
    · change stride * (4 - (4 - (vaWidth tcrEl1 - 4) / stride)) + 4 ≤ _
      rw [back]
      omega
    · change _ < stride * (4 - (4 - (vaWidth tcrEl1 - 4) / stride)) + 4 + stride
      rw [back]
      omega
    · exact ones_shift (by omega)
    · exact ones_shift (by omega)
    · change (flip 0 >>> (64 - 50)) &&& flip (flip 0 >>> (64 - (stride + 3))) = _
      rw [ones_shift (by omega),ones_shift (by omega)]

section Pages

variable (mem : GuestMem) (cr3Pa : Nat) {kva other : Nat} (same : kva / 4096 = other / 4096)
include same

theorem walk4level_onPage : walk4level mem cr3Pa other = (walk4level mem cr3Pa kva).map (onPage other) := by
  have large (entry : Nat) : (entry &&& 0x000FFFFFC0000000) ||| (other &&& 0x3FFFFFFF) =
      onPage other ((entry &&& 0x000FFFFFC0000000) ||| (kva &&& 0x3FFFFFFF)) :=
    leaf_onPage _ 30 (by decide) (by decide) same entry
  have middle (entry : Nat) : (entry &&& 0x000FFFFFFFE00000) ||| (other &&& 0x1FFFFF) =
      onPage other ((entry &&& 0x000FFFFFFFE00000) ||| (kva &&& 0x1FFFFF)) :=
    leaf_onPage _ 21 (by decide) (by decide) same entry
  have small (entry : Nat) : (entry &&& addrMask) ||| (other &&& 0xFFF) =
      onPage other ((entry &&& addrMask) ||| (kva &&& 0xFFF)) :=
    leaf_onPage _ 12 (by decide) (by decide) same entry
  simp only [walk4level,apply_ite (Option.map (onPage other)),Option.map_none,Option.map_some,large,middle,small,
    shift_eq same 39 (by decide),shift_eq same 30 (by decide),shift_eq same 21 (by decide),shift_eq same 12 (by decide)]

theorem walk5level_onPage : walk5level mem cr3Pa other = (walk5level mem cr3Pa kva).map (onPage other) := by
  have leaf (entry : Nat) : (entry &&& 0x000F000000000000) ||| (other &&& 0x0000FFFFFFFFFFFF) =
      onPage other ((entry &&& 0x000F000000000000) ||| (kva &&& 0x0000FFFFFFFFFFFF)) :=
    leaf_onPage _ 48 (by decide) (by decide) same entry
  simp only [walk5level,apply_ite (Option.map (onPage other)),Option.map_none,Option.map_some,leaf,
    walk4level_onPage mem _ same,shift_eq same 48 (by decide)]

theorem entryAddr_onPage {stride level descaddr indexmask : Nat} (wide : 9 ≤ stride) (inside : level ≤ 3) :
    (descaddr ||| ((other >>> (stride * (4 - level))) &&& indexmask)) &&& flip 7 =
      (descaddr ||| ((kva >>> (stride * (4 - level))) &&& indexmask)) &&& flip 7 := by
  have part : 9 ≤ stride * (4 - level) := wide.trans (Nat.le_mul_of_pos_right _ (by omega))
  apply eq_of_testBit_eq
  intro i
  rw [testBit_and,testBit_and,show 7 = 2 ^ 3 - 1 by rfl,testBit_flip_ones]
  by_cases high : 3 ≤ i
  · have bit : (other >>> (stride * (4 - level))).testBit i = (kva >>> (stride * (4 - level))).testBit i := by
      have shifted := congrArg (·.testBit 0) (shift_eq same (stride * (4 - level) + i) (by omega))
      simpa only [testBit_shiftRight,add_zero] using shifted
    rw [testBit_or,testBit_or,testBit_and,testBit_and,bit]
  · simp [high]

theorem descriptorCascade_onPage {params : Aarch64WalkParams} (wide : 9 ≤ params.stride)
    (below descaddr indexmask : Nat) :
    descriptorCascade mem other params below descaddr indexmask = descriptorCascade mem kva params below descaddr indexmask := by
  induction below generalizing descaddr indexmask with
  | zero => rw [descriptorCascade,descriptorCascade,entryAddr_onPage same wide (sub_le _ _)]
  | succ below ih =>
    rw [descriptorCascade,descriptorCascade,entryAddr_onPage same wide (sub_le _ _)]
    simp only [ih]

omit same in
theorem cascade_level (params : Aarch64WalkParams) (below descaddr indexmask level next : Nat)
    (found : descriptorCascade mem kva params below descaddr indexmask = some (level,next)) : level ≤ 3 := by
  induction below generalizing descaddr indexmask with
  | zero =>
    rw [descriptorCascade] at found
    dsimp only at found
    split_ifs at found
    cases found
    exact sub_le _ _
  | succ below ih =>
    rw [descriptorCascade] at found
    dsimp only at found
    split_ifs at found
    · cases table : toOffset (readU64 mem ((descaddr ||| ((kva >>> (params.stride * (4 - (3 - (below + 1))))) &&& indexmask)) &&&
          flip 7) 0 &&& params.descaddrmask) with
      | none =>
        rw [table] at found
        cases found
      | some table =>
        rw [table] at found
        exact ih _ _ found
    · cases found
      exact sub_le _ _

omit same in
theorem toOffset_onPage {gpa : Nat} : toOffset (onPage kva gpa) = (toOffset gpa).map (onPage kva) := by
  unfold toOffset checkedSub onPage dramStart
  by_cases low : 0x40000000 ≤ gpa
  · rw [if_pos low,if_pos (by omega),map_some]
    exact congrArg some (by omega)
  · rw [if_neg low,if_neg (by omega),map_none]

theorem walkAarch64WithParams_onPage {params : Aarch64WalkParams} (wide : 9 ≤ params.stride) :
    walkAarch64WithParams mem cr3Pa other params = (walkAarch64WithParams mem cr3Pa kva params).map (onPage other) := by
  rw [walkAarch64WithParams,walkAarch64WithParams,descriptorCascade_onPage mem same wide]
  cases leaf : descriptorCascade mem kva params (3 - params.startLevel) (cr3Pa &&& (flip 0 >>> (64 - 48)))
      params.firstIndexmask with
  | none => rfl
  | some found =>
    have inside := cascade_level mem params _ _ _ _ _ leaf
    have part : 9 ≤ params.stride * (4 - found.1) := wide.trans (Nat.le_mul_of_pos_right _ (by omega))
    simp only [one_shiftLeft]
    rw [leaf_onPage _ _ (by omega) flip_ones_mod same]
    exact toOffset_onPage

theorem translateKva_onPage (arch : Arch) (l5 : Bool) (tcrEl1 : Nat) :
    translateKva arch mem cr3Pa other l5 tcrEl1 = (translateKva arch mem cr3Pa kva l5 tcrEl1).map (onPage other) := by
  cases arch with
  | x86 =>
    cases l5 with
    | true => exact walk5level_onPage mem cr3Pa same
    | false => exact walk4level_onPage mem cr3Pa same
  | aarch64 =>
    rw [translateKva,translateKva,walkAarch64,walkAarch64]
    cases decoded : fromTcrEl1 tcrEl1 with
    | none => rfl
    | some params =>
      apply walkAarch64WithParams_onPage mem cr3Pa same
      have granule := (decoded_of_fromTcrEl1 decoded).granule
      omega

end Pages

variable (mem : GuestMem) (cr3Pa kva : Nat)

theorem leaf_lt {mask low : Nat} (first : mask < wordSpan) (second : low < wordSpan) {entry kva : Nat} :
    (entry &&& mask) ||| (kva &&& low) < wordSpan :=
  or_lt_two_pow (and_lt_two_pow _ first) (and_lt_two_pow _ second)

theorem walk4level_lt {pa : Nat} (found : walk4level mem cr3Pa kva = some pa) : pa < wordSpan := by
  simp only [walk4level] at found
  split_ifs at found
  all_goals
    cases found
    exact leaf_lt (by decide) (by decide)

theorem translateKva_lt {l5 : Bool} {tcrEl1 pa : Nat}
    (found : translateKva .x86 mem cr3Pa kva l5 tcrEl1 = some pa) : pa < wordSpan := by
  cases l5 with
  | true =>
    change walk5level mem cr3Pa kva = some pa at found
    simp only [walk5level] at found
    split_ifs at found
    · cases found
      exact leaf_lt (by decide) (by decide)
    · exact walk4level_lt mem _ kva found
  | false => exact walk4level_lt mem cr3Pa kva found

structure Request where
  cr3Pa : Nat
  kva : Nat
  l5 : Bool
  tcrEl1 : Nat
  kva_u64 : kva < wordSpan

/-- The answers to requests made one after the other, from a slot on. -/
def answers (arch : Arch) (mem : GuestMem) : Option TlbEntry → List Request → List (Option Nat)
  | _,[] => []
  | pageTlb,request::requests =>
    let (answer,after) := translateKvaCached arch mem pageTlb request.cr3Pa request.kva request.l5 request.tcrEl1
    answer::answers arch mem after requests

def Filled (mem : GuestMem) (pageTlb : Option TlbEntry) : Prop :=
  ∀ entry ∈ pageTlb, ∃ kva pa, kva < wordSpan ∧
    translateKva .x86 mem entry.cr3Pa kva entry.l5 entry.tcrEl1 = some pa ∧
      entry.kvaPage = kva &&& flip (4096 - 1) ∧ entry.paPage = pa &&& flip (4096 - 1)

theorem page_and {word : Nat} (fits : word < wordSpan) : word &&& flip (4096 - 1) = word / 4096 * 4096 :=
  and_flip_ones fits 12

theorem translateKvaCached_eq (pageTlb : Option TlbEntry) (filled : Filled mem pageTlb) (request : Request) :
    ∃ after, translateKvaCached .x86 mem pageTlb request.cr3Pa request.kva request.l5 request.tcrEl1 =
      (translateKva .x86 mem request.cr3Pa request.kva request.l5 request.tcrEl1,after) ∧ Filled mem after := by
  simp only [translateKvaCached]
  generalize hit : Option.filter _ pageTlb = found
  cases found with
  | some entry =>
    -- The cached page is that of the address asked for.
    obtain ⟨held,key⟩ := filter_eq_some_iff.mp hit
    simp only [Bool.and_eq_true,beq_iff_eq] at key
    obtain ⟨⟨⟨cr3Pa,l5⟩,tcrEl1⟩,page⟩ := key
    obtain ⟨kva,pa,fits,walked,kvaPage,paPage⟩ := filled entry held
    rw [cr3Pa,l5,tcrEl1] at walked
    rw [kvaPage,page_and fits,page_and request.kva_u64] at page
    have same : kva / 4096 = request.kva / 4096 := by omega
    have low := and_two_pow_sub_one_eq_mod request.kva 12
    refine ⟨pageTlb,Prod.ext ?_ rfl,filled⟩
    change some (entry.paPage ||| (request.kva &&& (4096 - 1))) = _
    rw [translateKva_onPage mem request.cr3Pa same,walked,map_some,paPage,
      page_and (translateKva_lt mem _ _ walked),low,onPage]
    exact congrArg some (@or_eq_add _ _ 12 (dvd_mul_left _ _) (mod_lt _ (by decide)))
  | none =>
    cases walked : translateKva .x86 mem request.cr3Pa request.kva request.l5 request.tcrEl1 with
    | none => exact ⟨pageTlb,rfl,filled⟩
    | some pa =>
      refine ⟨_,rfl,?_⟩
      intro entry held
      cases held
      exact ⟨request.kva,pa,request.kva_u64,walked,rfl,rfl⟩

theorem answers_eq (pageTlb : Option TlbEntry) (filled : Filled mem pageTlb) (requests : List Request) :
    answers .x86 mem pageTlb requests =
      requests.map fun request => translateKva .x86 mem request.cr3Pa request.kva request.l5 request.tcrEl1 := by
  induction requests generalizing pageTlb with
  | nil => rfl
  | cons request requests ih =>
    obtain ⟨after,answered,kept⟩ := translateKvaCached_eq mem pageTlb filled request
    rw [answers,answered,List.map_cons,← ih after kept]

/-- Requests are answered as by walks, and the answers keep the place within the page. -/
theorem cache_invisible (mem : GuestMem) (requests : List Request) :
    answers .x86 mem none requests = requests.map (fun request =>
        if request.l5 then walk5level mem request.cr3Pa request.kva else walk4level mem request.cr3Pa request.kva) ∧
      ∀ i pa : Nat, (answers .x86 mem none requests)[i]? = some (some pa) →
        ∃ request, requests[i]? = some request ∧ pa % 4096 = request.kva % 4096 := by
  have walks := answers_eq mem none (by intro entry held; cases held) requests
  refine ⟨walks,?_⟩
  intro i pa answered
  rw [walks,List.getElem?_map,map_eq_some_iff] at answered
  obtain ⟨request,there,walked⟩ := answered
  have own := translateKva_onPage mem request.cr3Pa (Eq.refl (request.kva / 4096)) .x86 request.l5 request.tcrEl1
  rw [walked,map_some,some.injEq,onPage] at own
  exact ⟨request,there,by omega⟩

end Ktstr.PageWalks
