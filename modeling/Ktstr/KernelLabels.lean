import Ktstr.Library.Tokens
import Ktstr.Source.KernelList

/-! What a sanitized kernel label keeps of the label: its words in lower case. -/
namespace Ktstr.KernelLabels
open List Library.Text Library.Tokens Source.Patterns Source.KernelList

def labelWords (raw : List Char) : List (List Char) := words Char.isAlphanum (raw.map Char.toLower)

def lowerStep (state : List Char × Bool) (c : Char) : List Char × Bool :=
  if c.isAlphanum then (state.1 ++ [c],false)
  else if !state.2 then (state.1 ++ ['_'],true)
  else state

variable (text : List Char)

variable {text}

theorem fold_run (all : ∀ c ∈ text, c.isAlphanum) (out : List Char) (flag : Bool) :
    text.foldl lowerStep (out,flag) = (out ++ text,flag && text.isEmpty) := by
  induction text generalizing out flag with
  | nil => simp
  | cons c rest ih =>
    have letter : c.isAlphanum := all c mem_cons_self
    rw [foldl_cons,lowerStep,if_pos letter,ih (fun x member => all x (mem_cons_of_mem c member))]
    simp

theorem fold_words (out : List Char) : ∃ tail flag, text.foldl lowerStep (out,true) = (out ++ tail,flag) ∧
      ((flag ∧ tail = (words Char.isAlphanum text).flatMap (· ++ ['_'])) ∨
        (∃ front last, tail = front ++ [last] ∧ last.isAlphanum ∧
          tail ++ ['_'] = (words Char.isAlphanum text).flatMap (· ++ ['_']))) := by
  induction text using gaps_induction Char.isAlphanum generalizing out with
  | run text all =>
    refine ⟨text,text.isEmpty,by rw [fold_run all]; simp,?_⟩
    rw [words_run _ all]
    rcases eq_nil_or_concat text with rfl | ⟨front,last,rfl⟩
    · exact Or.inl ⟨rfl,rfl⟩
    · rw [concat_eq_append] at all ⊢
      exact Or.inr ⟨front,last,rfl,all last (by simp),by simp⟩
  | gap before c after all outside ih =>
    have skipped : lowerStep (out ++ before,true && before.isEmpty) c =
        (out ++ before.flatMap (fun x => [x]) ++ (if before.isEmpty then [] else ['_']),true) := by
      cases before <;> simp [lowerStep,outside]
    obtain ⟨tail,flag,folded,shape⟩ := ih (out ++ before.flatMap (fun x => [x]) ++ if before.isEmpty then [] else ['_'])
    refine ⟨before ++ (if before.isEmpty then [] else ['_']) ++ tail,flag,?_,?_⟩
    · rw [foldl_append,fold_run all,foldl_cons,skipped,folded]
      simp
    · rw [words_gap _ outside,words_run _ all]
      rcases shape with ⟨rfl,rfl⟩ | ⟨front,last,rfl,letter,behind⟩
      · left
        cases before <;> simp
      · right
        refine ⟨before ++ (if before.isEmpty then [] else ['_']) ++ front,last,by simp,letter,?_⟩
        rw [append_assoc,behind]
        cases before <;> simp

theorem sanitize_eq (raw : String) :
    (sanitizeKernelLabel raw).toList = "kernel_".toList ++ ['_'].intercalate (labelWords raw.toList) := by
  obtain ⟨tail,flag,folded,shape⟩ := fold_words "kernel_".toList
  rw [foldl_map] at folded
  rw [sanitizeKernelLabel,show raw.toList.foldl sanitizeStep _ = _ from folded]
  rw [String.toList_ofList]
  change _ = "kernel_".toList ++ ['_'].intercalate (words Char.isAlphanum (raw.toList.map Char.toLower))
  by_cases none : words Char.isAlphanum (raw.toList.map Char.toLower) = []
  · rw [none] at shape ⊢
    rcases shape with ⟨-,rfl⟩ | ⟨front,last,rfl,-,behind⟩
    · rfl
    · exact absurd behind (by simp)
  · rw [flatMap_mark none] at shape
    rcases shape with ⟨-,rfl⟩ | ⟨front,last,rfl,letter,behind⟩
    · rw [← append_assoc,getLast?_concat,dropLast_concat,if_pos]
      exact ⟨rfl,by simp [← String.length_toList]⟩
    · have solid : last ≠ '_' := by
        rintro rfl
        exact absurd letter (by decide)
      rw [← append_assoc,getLast?_concat,if_neg (by simp [solid]),append_assoc,append_cancel_right behind]

theorem labelWords_spec {raw word : List Char} (listed : word ∈ labelWords raw) :
    word ≠ [] ∧ ∀ c ∈ word, c.isAlphanum := words_spec _ listed

theorem sanitize_inj {first second : String} :
    sanitizeKernelLabel first = sanitizeKernelLabel second ↔ labelWords first.toList = labelWords second.toList := by
  have free (raw word : List Char) (listed : word ∈ labelWords raw) : word ≠ [] ∧ '_' ∉ word := by
    obtain ⟨some,letters⟩ := labelWords_spec listed
    exact ⟨some,fun member => absurd (letters '_' member) (by decide)⟩
  rw [← String.toList_inj,sanitize_eq,sanitize_eq,append_cancel_left_eq]
  exact intercalate_inj (free _) (free _)

theorem sanitize_no_slash {raw : String} : '/' ∉ (sanitizeKernelLabel raw).toList := by
  rw [sanitize_eq,mem_append,not_or]
  refine ⟨by decide,fun among => ?_⟩
  by_cases none : labelWords raw.toList = []
  · rw [none] at among
    exact absurd among (by simp)
  · have marked := mem_append_left ['_'] among
    rw [← flatMap_mark none,mem_flatMap] at marked
    obtain ⟨word,listed,member⟩ := marked
    rcases mem_append.mp member with member | member
    · exact absurd ((labelWords_spec listed).2 '/' member) (by decide)
    · exact absurd member (by decide)

theorem isAlphanum_eq (c : Char) : c.isAlphanum =
    ((decide (65 ≤ c.val ∧ c.val ≤ 90) || decide (97 ≤ c.val) && decide (c.val ≤ 122)) ||
      decide (48 ≤ c.val) && decide (c.val ≤ 57)) := rfl

theorem toLower_isAlphanum (c : Char) : c.toLower.isAlphanum = c.isAlphanum := by
  unfold Char.toLower
  split
  · next upper =>
    have low : 65 ≤ c.val.toNat := upper.1
    have high : c.val.toNat ≤ 90 := upper.2
    have shifted : (c.val + 32).toNat = c.val.toNat + 32 := by
      exact Nat.mod_eq_of_lt (by change c.val.toNat + 32 < _; omega)
    have left : 97 ≤ c.val + 32 ∧ c.val + 32 ≤ 122 := by
      simp only [UInt32.le_iff_toNat_le]
      exact ⟨by change 97 ≤ _; omega,by change _ ≤ 122; omega⟩
    have right : 65 ≤ c.val ∧ c.val ≤ 90 := upper
    simp [isAlphanum_eq,left,right]
  · rfl

theorem whitespace_outside {c : Char} (space : isWhitespace c) : c.isAlphanum = false := by
  simp only [isWhitespace,Bool.or_eq_true,Bool.and_eq_true,decide_eq_true_eq,beq_iff_eq] at space
  simp [isAlphanum_eq,UInt32.le_iff_toNat_le]
  omega

theorem lower_outside (outside : ∀ c ∈ text, c.isAlphanum = false) :
    ∀ c ∈ text.map Char.toLower, c.isAlphanum = false := by
  intro c member
  obtain ⟨original,listed,rfl⟩ := mem_map.mp member
  rw [toLower_isAlphanum,outside original listed]

theorem labelWords_gap {before after : List Char} {gap : Char} (outside : gap.isAlphanum = false) :
    labelWords (before ++ gap::after) = labelWords before ++ labelWords after := by
  rw [labelWords,map_append,map_cons,words_gap _ (by rw [toLower_isAlphanum,outside])]
  rfl

variable (text)

theorem labelWords_pad (front text back : List Char) (left : ∀ c ∈ front, c.isAlphanum = false)
    (right : ∀ c ∈ back, c.isAlphanum = false) : labelWords (front ++ text ++ back) = labelWords text := by
  rw [labelWords,map_append,map_append,words_pad _ (lower_outside left) (lower_outside right)]
  rfl

theorem labelWords_eq_nil_iff : labelWords text = [] ↔ ∀ c ∈ text, c.isAlphanum = false := by
  rw [labelWords,words_eq_nil_iff]
  simp [toLower_isAlphanum]

theorem labelWords_split (mark : Char) (outside : mark.isAlphanum = false) (text : String) :
    labelWords text.toList = (split mark text).flatMap fun part => labelWords part.toList := by
  have joined (parts : List (List Char)) : labelWords ([mark].intercalate parts) = parts.flatMap labelWords := by
    induction parts with
    | nil => rfl
    | cons part rest ih =>
      cases rest with
      | nil => simp
      | cons next rest =>
        rw [intercalate_cons_cons,append_assoc,singleton_append,labelWords_gap outside,ih]
        rfl
  rw [split,flatMap_map]
  simp only [String.toList_ofList]
  rw [← joined,intercalate_splitOn]

theorem labelWords_length : (labelWords text).flatten.length = text.countP Char.isAlphanum := by
  rw [labelWords,flatten_words,← countP_eq_length_filter,countP_map]
  exact countP_congr fun c _ => by simp [toLower_isAlphanum]

end Ktstr.KernelLabels
