import Mathlib.Data.List.TakeWhile

/-! Words of a text: its longest runs of characters of one kind. What stands between the words is
lost, so words tell of a text all that a reader keeps who folds every gap into one separator. -/
namespace Ktstr.Library.Tokens
open List

variable {α : Type} (inside : α → Bool)

def words (text : List α) : List (List α) := (text.splitOnP fun c => !inside c).filter fun word => !word.isEmpty

theorem gaps_induction {motive : List α → Prop} (run : ∀ text, (∀ c ∈ text, inside c) → motive text)
    (gap : ∀ before c after, (∀ x ∈ before, inside x) → inside c = false → motive after →
      motive (before ++ c::after)) (text : List α) : motive text := by
  generalize size : text.length = n
  induction n using Nat.strong_induction_on generalizing text with
  | _ n ih =>
    have all : ∀ c ∈ text.takeWhile inside, inside c := fun c => mem_takeWhile_imp
    cases dropped : text.dropWhile inside with
    | nil => exact run text (dropWhile_eq_nil_iff.mp dropped)
    | cons c after =>
      have whole : text.takeWhile inside ++ c::after = text := by rw [← dropped,takeWhile_append_dropWhile]
      have stopped : inside c = false := by
        have head := head_dropWhile_not inside (w := by rw [dropped]; exact cons_ne_nil _ _)
        simpa [dropped] using head
      have shorter : after.length < n := by
        rw [← size,← whole]
        simp
        omega
      rw [← whole]
      exact gap _ c after all stopped (ih _ shorter after rfl)

@[simp] theorem words_nil : words inside [] = [] := rfl

theorem words_gap {before after : List α} {gap : α} (outside : inside gap = false) :
    words inside (before ++ gap::after) = words inside before ++ words inside after := by
  simp only [words]
  rw [splitOnP_append_cons before after (by simp [outside]),filter_append]

theorem words_run {text : List α} (all : ∀ c ∈ text, inside c) :
    words inside text = if text.isEmpty then [] else [text] := by
  rw [words,splitOnP_eq_singleton (by simpa using all)]
  cases text <;> rfl

theorem flatten_words (text : List α) : (words inside text).flatten = text.filter inside := by
  induction text using gaps_induction inside with
  | run text all =>
    rw [words_run _ all,filter_eq_self.mpr all]
    cases text <;> simp
  | gap before c after all outside ih =>
    rw [words_gap _ outside,words_run _ all,flatten_append,ih,filter_append,
      filter_eq_self.mpr all,filter_cons_of_neg (by simp [outside])]
    cases before <;> simp

theorem words_spec {text word : List α} (listed : word ∈ words inside text) : word ≠ [] ∧ ∀ c ∈ word, inside c := by
  refine ⟨?_,fun c member => ?_⟩
  · have kept := (mem_filter.mp listed).2
    rintro rfl
    exact absurd kept (by simp)
  · have among := mem_flatten.mpr ⟨word,listed,member⟩
    rw [flatten_words] at among
    exact (mem_filter.mp among).2

theorem words_eq_nil_iff {text : List α} : words inside text = [] ↔ ∀ c ∈ text, inside c = false := by
  constructor
  · intro none c member
    have letters := flatten_words inside text
    rw [none,flatten_nil,eq_comm,filter_eq_nil_iff] at letters
    simpa using letters c member
  · intro outside
    have letters := flatten_words inside text
    rw [filter_eq_nil_iff.mpr fun c member => by simp [outside c member]] at letters
    cases listed : words inside text with
    | nil => rfl
    | cons word rest =>
      have spec := words_spec _ (by rw [listed]; exact mem_cons_self)
      rw [listed,flatten_cons,append_eq_nil_iff] at letters
      exact absurd letters.1 spec.1

theorem words_pad {front text back : List α} (left : ∀ c ∈ front, inside c = false)
    (right : ∀ c ∈ back, inside c = false) : words inside (front ++ text ++ back) = words inside text := by
  have behind : words inside (text ++ back) = words inside text := by
    cases back with
    | nil => rw [append_nil]
    | cons c rest =>
      rw [words_gap _ (right c mem_cons_self),
        (words_eq_nil_iff inside).mpr fun x member => right x (mem_cons_of_mem c member),append_nil]
  rw [append_assoc]
  rcases eq_nil_or_concat front with rfl | ⟨first,last,rfl⟩
  · exact behind
  · rw [concat_eq_append] at left ⊢
    have none : words inside first = [] :=
      (words_eq_nil_iff inside).mpr fun x member => left x (mem_append_left _ member)
    rw [append_assoc,singleton_append,words_gap _ (left last (by simp)),none,nil_append,behind]

theorem flatMap_mark {mark : α} {parts : List (List α)} (some : parts ≠ []) :
    parts.flatMap (fun part => part ++ [mark]) = [mark].intercalate parts ++ [mark] := by
  induction parts with
  | nil => exact absurd rfl some
  | cons part parts ih =>
    cases parts with
    | nil => simp
    | cons next rest =>
      rw [flatMap_cons,ih (cons_ne_nil _ _)]
      simp

theorem intercalate_inj [DecidableEq α] {mark : α} {first second : List (List α)}
    (left : ∀ part ∈ first, part ≠ [] ∧ mark ∉ part) (right : ∀ part ∈ second, part ≠ [] ∧ mark ∉ part) :
    [mark].intercalate first = [mark].intercalate second ↔ first = second := by
  have empty (parts : List (List α)) (each : ∀ part ∈ parts, part ≠ [] ∧ mark ∉ part)
      (none : [mark].intercalate parts = []) : parts = [] := by
    cases parts with
    | nil => rfl
    | cons part rest =>
      cases rest <;> simp_all
  constructor
  · intro same
    rcases eq_nil_or_concat first with rfl | ⟨_,_,rfl⟩
    · exact (empty second right (by simpa using same.symm)).symm
    · rcases eq_nil_or_concat second with rfl | ⟨_,_,rfl⟩
      · exact empty _ left (by simpa using same)
      · rw [← splitOn_intercalate mark (fun part listed => (left part listed).2) (by simp),same,
          splitOn_intercalate mark (fun part listed => (right part listed).2) (by simp)]
  · exact congrArg _

end Ktstr.Library.Tokens
