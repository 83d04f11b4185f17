import Ktstr.PageWalks
import Ktstr.Semantics.TableWalks

/-! The walk of aarch64 for every granule and address width: its fields divide the address, and it is the lookup that the
architecture prescribes. -/
namespace Ktstr.AarchTables
open Library.Words Source.Reader Semantics.TableWalks PageWalks Nat Option

/-- Amounts that the decoding and the walk shift 64-bit words by, with nothing cut off below zero. -/
def shiftAmounts (tcrEl1 : Nat) (params : Aarch64WalkParams) : List Int :=
  ([59,16,30,64 - 50,64 - 48,64 - (params.stride + 3),
    64 - (vaWidth tcrEl1 - params.stride * (4 - params.startLevel))] : List Int) ++
  (List.range' params.startLevel (4 - params.startLevel)).flatMap fun level : Nat =>
    [(params.stride : Int) * (4 - level),(params.stride : Int) * (4 - level) + 3]

def indexmaskAt (params : Aarch64WalkParams) (level : Nat) : Nat :=
  if level = params.startLevel then params.firstIndexmask else params.indexmaskGrainsize

/-- The bit of an address takes part in the index at a level: of what is masked, three bits are cut off. -/
def InIndex (params : Aarch64WalkParams) (level bit : Nat) : Prop :=
  ∃ i ≥ 3, (indexmaskAt params level).testBit i = true ∧ bit = params.stride * (4 - level) + i

def InOffset (params : Aarch64WalkParams) (bit : Nat) : Prop :=
  ((1 <<< (params.stride * (4 - 3) + 3)) - 1).testBit bit = true

structure Partitions (width : Nat) (params : Aarch64WalkParams) : Prop where
  covers : ∀ bit, bit < width ↔
    InOffset params bit ∨ ∃ level, params.startLevel ≤ level ∧ level ≤ 3 ∧ InIndex params level bit
  apart : ∀ bit level, params.startLevel ≤ level → level ≤ 3 → InIndex params level bit → ¬ InOffset params bit ∧
    ∀ other, params.startLevel ≤ other → other ≤ 3 → InIndex params other bit → other = level
  entries : ∀ level kva, ((kva >>> (params.stride * (4 - level))) &&& indexmaskAt params level) / 8 < 2 ^ params.stride

/-- The walk is the architecture's lookup, in tables as large as they are aligned. -/
structure WalksAs (width : Nat) (params : Aarch64WalkParams) (mem : GuestMem) (ttbrPa kva : Nat) : Prop where
  result : walkAarch64WithParams mem ttbrPa kva params = lookup mem params.stride kva (3 - params.startLevel)
    (ttbrPa % 2 ^ 48) (kva % 2 ^ width / 2 ^ (params.stride * (4 - params.startLevel) + 3))
  reads : (aarch64Reads mem ttbrPa kva params).length ≤ 4 - params.startLevel

section Fields

variable {tcrEl1 : Nat} {params : Aarch64WalkParams} (decoded : Decoded tcrEl1 params)
include decoded

theorem shifts_fit (amount : Int) (used : amount ∈ shiftAmounts tcrEl1 params) : 0 ≤ amount ∧ amount < 64 := by
  obtain ⟨granule,start,narrow,least,most,-,-,-⟩ := decoded
  simp only [shiftAmounts,List.mem_append,List.mem_cons,List.not_mem_nil,or_false,List.mem_flatMap,
    List.mem_range'_1] at used
  rcases granule with stride | stride | stride <;> rw [stride] at used least most <;>
    rcases used with fixed | ⟨level,range,varied⟩ <;> omega

def indexWidth (tcrEl1 : Nat) (params : Aarch64WalkParams) (level : Nat) : Nat :=
  if level = params.startLevel then vaWidth tcrEl1 - params.stride * (4 - params.startLevel) else params.stride + 3

theorem indexmaskAt_eq (level : Nat) : indexmaskAt params level = 2 ^ indexWidth tcrEl1 params level - 1 := by
  unfold indexmaskAt indexWidth
  split
  · exact decoded.first
  · exact decoded.grain

theorem indexWidth_bounds (level : Nat) :
    4 ≤ indexWidth tcrEl1 params level ∧ indexWidth tcrEl1 params level ≤ params.stride + 3 := by
  have least := decoded.least
  have most := decoded.most
  unfold indexWidth
  split <;> omega

theorem inIndex_iff (level bit : Nat) : InIndex params level bit ↔
    params.stride * (4 - level) + 3 ≤ bit ∧ bit < params.stride * (4 - level) + indexWidth tcrEl1 params level := by
  unfold InIndex
  simp only [indexmaskAt_eq decoded,testBit_two_pow_sub_one,decide_eq_true_eq]
  constructor
  · rintro ⟨i,low,high,rfl⟩
    omega
  · intro ⟨low,high⟩
    exact ⟨bit - params.stride * (4 - level),by omega,by omega,by omega⟩

omit decoded in
theorem inOffset_iff (bit : Nat) : InOffset params bit ↔ bit < params.stride + 3 := by
  rw [InOffset,Nat.one_shiftLeft,Nat.testBit_two_pow_sub_one,decide_eq_true_eq,Nat.mul_one]

theorem partitions : Partitions (vaWidth tcrEl1) params := by
  have start := decoded.start
  have least := decoded.least
  have wide : 9 ≤ params.stride := by
    have := decoded.granule
    omega
  have top : params.stride * (4 - params.startLevel) + indexWidth tcrEl1 params params.startLevel = vaWidth tcrEl1 := by
    rw [indexWidth,if_pos rfl]
    omega
  have lower (level : Nat) (below : params.startLevel < level) : indexWidth tcrEl1 params level = params.stride + 3 :=
    if_neg (ne_of_gt below)
  constructor
  · intro bit
    simp only [inOffset_iff,inIndex_iff decoded]
    constructor
    · intro inside
      by_cases page : bit < params.stride + 3
      · exact Or.inl page
      refine Or.inr ?_
      by_cases first : params.stride * (4 - params.startLevel) + 3 ≤ bit
      · exact ⟨params.startLevel,le_refl _,start,first,by omega⟩
      · have strides := div_add_mod (bit - 3) params.stride
        have rest := mod_lt (bit - 3) (show 0 < params.stride by omega)
        have some : 0 < (bit - 3) / params.stride := div_pos (by omega) (by omega)
        have few : (bit - 3) / params.stride < 4 - params.startLevel := Nat.div_lt_of_lt_mul (by omega)
        generalize (bit - 3) / params.stride = count at *
        have back : 4 - (4 - count) = count := by omega
        refine ⟨4 - count,by omega,by omega,?_⟩
        rw [lower _ (by omega),back]
        omega
    · rintro (page | ⟨level,above,last,low,high⟩)
      · have := Nat.le_mul_of_pos_right params.stride (show 0 < 4 - params.startLevel by omega)
        omega
      · rcases eq_or_lt_of_le above with rfl | below
        · omega
        · rw [lower level below] at high
          have := mul_le_mul_left params.stride (show 4 - level + 1 ≤ 4 - params.startLevel by omega)
          rw [mul_succ] at this
          omega
  · intro bit level above last
    simp only [inOffset_iff,inIndex_iff decoded]
    rintro ⟨low,high⟩
    have least := Nat.le_mul_of_pos_right params.stride (show 0 < 4 - level by omega)
    refine ⟨by omega,?_⟩
    rintro other otherAbove otherLast ⟨otherLow,otherHigh⟩
    rcases lt_trichotomy other level with less | same | more
    · rw [lower level (by omega)] at high
      have := mul_le_mul_left params.stride (show 4 - level + 1 ≤ 4 - other by omega)
      rw [mul_succ] at this
      omega
    · exact same
    · rw [lower other (by omega)] at otherHigh
      have := mul_le_mul_left params.stride (show 4 - other + 1 ≤ 4 - level by omega)
      rw [mul_succ] at this
      omega
  · intro level kva
    have bounds := (indexWidth_bounds decoded level).2
    rw [indexmaskAt_eq decoded,and_two_pow_sub_one_eq_mod]
    apply Nat.div_lt_of_lt_mul
    calc _ < 2 ^ indexWidth tcrEl1 params level := Nat.mod_lt _ (Nat.two_pow_pos _)
      _ ≤ 2 ^ (params.stride + 3) := Nat.pow_le_pow_right (by decide) bounds
      _ = 8 * 2 ^ params.stride := by rw [Nat.pow_add,Nat.mul_comm]

end Fields

variable (kva : Nat)

theorem entryAddr_eq {table : Nat} (low : Nat) {bits : Nat} (wide : 3 ≤ bits) (aligned : 2 ^ bits ∣ table)
    (fits : table + 2 ^ bits ≤ wordSpan) :
    (table ||| ((kva >>> low) &&& (2 ^ bits - 1))) &&& flip 7 = table + 8 * (kva / 2 ^ (low + 3) % 2 ^ (bits - 3)) := by
  have small := Nat.mod_lt (kva >>> low) (Nat.two_pow_pos bits)
  obtain ⟨more,rfl⟩ := Nat.exists_eq_add_of_le' wide
  obtain ⟨count,rfl⟩ := aligned
  rw [and_two_pow_sub_one_eq_mod,or_eq_add (dvd_mul_right _ _) small]
  refine (and_flip_ones (by omega) 3).trans ?_
  rw [Nat.add_sub_cancel,Nat.pow_add 2 low,← Nat.div_div_eq_div_mul,← Nat.shiftRight_eq_div_pow kva low]
  rw [pow_add,mul_comm (2 ^ more),mod_mul,mul_assoc]
  omega

variable (descriptor bits : Nat)

theorem descaddr_eq : descriptor &&& ((2 ^ 50 - 1) &&& flip (2 ^ bits - 1)) = outputAddress descriptor bits := by
  have fits : descriptor % 2 ^ 50 < wordSpan := (Nat.mod_lt _ (Nat.two_pow_pos 50)).trans (by decide)
  rw [← Nat.and_assoc,Nat.and_two_pow_sub_one_eq_mod,and_flip_ones fits,outputAddress]

theorem outputAddress_lt : outputAddress descriptor bits < 2 ^ 50 :=
  (Nat.div_mul_le_self _ _).trans_lt (Nat.mod_lt _ (Nat.two_pow_pos 50))

theorem outputAddress_coarser {fine coarse : Nat} (le : fine ≤ coarse) :
    outputAddress descriptor fine &&& flip (2 ^ coarse - 1) = outputAddress descriptor coarse := by
  rw [and_flip_ones ((outputAddress_lt _ _).trans (by decide)),outputAddress,outputAddress]
  obtain ⟨more,rfl⟩ := Nat.exists_eq_add_of_le le
  rw [Nat.pow_add,← Nat.div_div_eq_div_mul,← Nat.div_div_eq_div_mul,Nat.mul_div_cancel _ (Nat.two_pow_pos fine)]

theorem dvd_dramStart {bits : Nat} (small : bits ≤ 30) : 2 ^ bits ∣ dramStart := pow_dvd_pow 2 small

theorem leaf_eq {fine bits : Nat} (le : fine ≤ bits) (small : bits ≤ 30) :
    toOffset ((outputAddress descriptor fine &&& flip (2 ^ bits - 1)) ||| (kva &&& (2 ^ bits - 1))) =
      leafAddress kva descriptor bits := by
  obtain ⟨aligned,sum⟩ := and_or_low flip_ones_mod
  rw [sum]
  rw [outputAddress_coarser _ le] at aligned ⊢
  rw [leafAddress,toOffset,toOffset,checkedSub,checkedSub]
  by_cases inside : dramStart ≤ outputAddress descriptor bits
  · rw [if_pos inside,if_pos (by omega),map_some]
    exact congrArg some (by omega)
  · have apart : outputAddress descriptor bits + 2 ^ bits ≤ dramStart := by
      obtain ⟨count,here⟩ := aligned
      obtain ⟨total,there⟩ := dvd_dramStart small
      rw [here,there] at inside ⊢
      exact Nat.mul_le_mul_left _ (Nat.lt_of_mul_lt_mul_left (Nat.lt_of_not_le inside))
    rw [if_neg inside,if_neg (by omega),map_none]

theorem and_two (word : Nat) : word &&& 2 = 0 ↔ word.testBit 1 = false := by
  rw [show 2 = 2 ^ 1 by rfl,and_two_pow]
  cases word.testBit 1 <;> simp

theorem blockLegal_iff {stride : Nat} (granule : stride = 9 ∨ stride = 11 ∨ stride = 13) (level : Nat) :
    blockLegal stride level ↔ MapsBlocks stride level := by
  unfold MapsBlocks
  rcases granule with rfl | rfl | rfl
  · simp [blockLegal,or_comm]
  · simp [blockLegal]
  · simp [blockLegal]

def composed (kva : Nat) (params : Aarch64WalkParams) (leaf : Nat × Nat) : Option Nat :=
  let pageSize := 1 <<< (params.stride * (4 - leaf.1) + 3)
  toOffset ((leaf.2 &&& flip (pageSize - 1)) ||| (kva &&& (pageSize - 1)))

theorem cascade_lookup {tcrEl1 : Nat} {params : Aarch64WalkParams} (decoded : Decoded tcrEl1 params)
    (mem : GuestMem) (kva below table bits : Nat) (few : below ≤ 3) (wide : 3 ≤ bits) (aligned : 2 ^ bits ∣ table)
    (fits : table + 2 ^ bits ≤ wordSpan) :
    (descriptorCascade mem kva params below table (2 ^ bits - 1)).bind (composed kva params) =
      lookup mem params.stride kva below table (kva / 2 ^ (params.stride * (below + 1) + 3) % 2 ^ (bits - 3)) := by
  have granule := decoded.granule
  induction below generalizing table bits with
  | zero =>
    rw [descriptorCascade,lookup,decoded.output]
    simp only [show 4 - (3 - 0) = 0 + 1 by rfl,entryAddr_eq kva _ wide aligned fits,descaddr_eq,
      and_one_is_mod,and_two]
    generalize readU64 mem _ 0 = descriptor
    by_cases clear : descriptor % 2 = 0
    · simp [clear]
    cases bit : descriptor.testBit 1 with
    | false => simp [clear]
    | true =>
      have last : params.stride * (4 - (3 - 0)) = params.stride := mul_one _
      simp only [clear,if_false,Bool.true_eq_false,and_false,false_and,or_false,bind_some,composed,last,
        one_shiftLeft]
      exact leaf_eq kva descriptor (le_refl _) (by omega)
  | succ below ih =>
    have level : 4 - (3 - (below + 1)) = below + 2 := by omega
    rw [descriptorCascade,lookup,decoded.output,decoded.grain]
    simp only [level,entryAddr_eq kva _ wide aligned fits,descaddr_eq,and_one_is_mod]
    generalize readU64 mem _ 0 = descriptor
    have above : ¬ 3 - (below + 1) = 3 := by omega
    have inner : 3 - (below + 1) < 3 := by omega
    have two := and_two descriptor
    by_cases clear : descriptor % 2 = 0
    · simp [clear]
    cases bit : descriptor.testBit 1 with
    | true =>
      rw [bit] at two
      simp only [clear,above,two,ne_eq]
      cases next : toOffset (outputAddress descriptor (params.stride + 3)) with
      | none => rfl
      | some following =>
        obtain ⟨inside,rfl⟩ : dramStart ≤ outputAddress descriptor (params.stride + 3) ∧
            outputAddress descriptor (params.stride + 3) - dramStart = following := by
          simpa [toOffset,checkedSub] using next
        have room := outputAddress_lt descriptor (params.stride + 3)
        have page : 2 ^ (params.stride + 3) ≤ 2 ^ 16 := Nat.pow_le_pow_right (by decide) (by omega)
        refine ih _ (params.stride + 3) (by omega) (by omega) ?_ ?_
        · exact Nat.dvd_sub (Nat.dvd_mul_left _ _) (dvd_dramStart (by omega))
        · unfold wordSpan
          omega
    | false =>
      have legal := blockLegal_iff granule (3 - (below + 1))
      rw [bit] at two
      rw [show 2 - below = 3 - (below + 1) by omega]
      cases block : blockLegal params.stride (3 - (below + 1)) with
      | false =>
        rw [block,Bool.false_eq_true,false_iff] at legal
        simp only [clear,above,two,inner,legal,if_false,Bool.false_eq_true,and_true,if_true,bind_none]
      | true =>
        have mapped := legal.mp block
        have small : params.stride * (below + 2) + 3 ≤ 30 := by
          rcases mapped with last | ⟨first,pages⟩
          · rw [show below = 0 by omega]
            omega
          · rw [show below = 1 by omega,pages]
        have large : params.stride + 3 ≤ params.stride * (below + 2) + 3 :=
          Nat.add_le_add_right (Nat.le_mul_of_pos_right _ (by omega)) 3
        simp only [clear,above,two,mapped,if_false,if_true,Bool.false_eq_true,Bool.true_eq_false,false_and,and_false,ne_eq,
          not_true_eq_false,bind_some,composed,level,one_shiftLeft]
        exact leaf_eq kva descriptor large small

theorem length_descriptorReads (mem : GuestMem) (kva : Nat) (params : Aarch64WalkParams)
    (below descaddr indexmask : Nat) : (descriptorReads mem kva params below descaddr indexmask).length ≤ below + 1 := by
  fun_induction descriptorReads mem kva params below descaddr indexmask with
  | case1 descaddr indexmask entryAddr descriptor below table next linked ih => exact succ_le_succ ih
  | case2 => simp
  | case3 => simp

/-- Every register value that is accepted makes a walk whose shifts are in range and whose fields divide the address; in
tables aligned to their size it finds what the architecture's lookup finds, with one read for each level at most. -/
theorem aarch64_walk_geometry (tcrEl1 : Nat) (params : Aarch64WalkParams)
    (decoded : Aarch64WalkParams.fromTcrEl1 tcrEl1 = some params) :
    (∀ amount ∈ shiftAmounts tcrEl1 params, 0 ≤ amount ∧ amount < 64) ∧ Partitions (vaWidth tcrEl1) params ∧
      ∀ mem ttbrPa kva, params.firstIndexmask + 1 ∣ ttbrPa → WalksAs (vaWidth tcrEl1) params mem ttbrPa kva := by
  have decoded := decoded_of_fromTcrEl1 decoded
  refine ⟨shifts_fit decoded,partitions decoded,?_⟩
  intro mem ttbrPa kva aligned
  have start := decoded.start
  have below : 3 - params.startLevel + 1 = 4 - params.startLevel := by omega
  constructor
  · obtain ⟨bits,known⟩ : ∃ bits, vaWidth tcrEl1 - params.stride * (4 - params.startLevel) = bits := ⟨_,rfl⟩
    have least := decoded.least
    have most := decoded.most
    have granule := decoded.granule
    have first : params.firstIndexmask = 2 ^ bits - 1 := by rw [decoded.first,known]
    have table : ttbrPa &&& (flip 0 >>> (64 - 48)) = ttbrPa % 2 ^ 48 := by
      rw [ones_shift (by decide),and_two_pow_sub_one_eq_mod]
    have sized : 2 ^ bits ∣ ttbrPa := by
      rwa [first,Nat.sub_add_cancel (Nat.one_le_two_pow)] at aligned
    have inside : 2 ^ bits ∣ ttbrPa % 2 ^ 48 :=
      (dvd_mod_iff (pow_dvd_pow 2 (by omega))).mpr sized
    have index : kva % 2 ^ vaWidth tcrEl1 / 2 ^ (params.stride * (4 - params.startLevel) + 3) =
        kva / 2 ^ (params.stride * (4 - params.startLevel) + 3) % 2 ^ (bits - 3) := by
      rw [← mod_mul_right_div_self,← pow_add]
      congr 3
      omega
    have walked := cascade_lookup decoded mem kva (3 - params.startLevel) (ttbrPa % 2 ^ 48) bits (by omega) (by omega)
      inside (by
        have page : 2 ^ bits ≤ 2 ^ 16 := Nat.pow_le_pow_right (by decide) (by omega)
        unfold wordSpan
        omega)
    rw [index,← below,← walked,walkAarch64WithParams,table,first]
    cases descriptorCascade mem kva params (3 - params.startLevel) (ttbrPa % 2 ^ 48) (2 ^ bits - 1) with
    | none => rfl
    | some leaf => rfl
  · rw [← below]
    exact length_descriptorReads _ _ _ _ _ _

-- 4 KiB pages and 48-bit addresses, walked from level 0
def linuxTcr : Nat := (16 <<< 16) ||| (0b10 <<< 30)

def linuxParams : Aarch64WalkParams := ⟨9,0,0xFFF,0xFFF,0x3FFFFFFFFF000⟩

theorem linux_walk_geometry : Aarch64WalkParams.fromTcrEl1 linuxTcr = some linuxParams ∧
    (∀ amount ∈ shiftAmounts linuxTcr linuxParams, 0 ≤ amount ∧ amount < 64) ∧
      Partitions (vaWidth linuxTcr) linuxParams ∧ ∀ mem ttbrPa kva, linuxParams.firstIndexmask + 1 ∣ ttbrPa →
        WalksAs (vaWidth linuxTcr) linuxParams mem ttbrPa kva :=
  have decoded : Aarch64WalkParams.fromTcrEl1 linuxTcr = some linuxParams := rfl
  ⟨decoded,aarch64_walk_geometry linuxTcr linuxParams decoded⟩

end Ktstr.AarchTables
