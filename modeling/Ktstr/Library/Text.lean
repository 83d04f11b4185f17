import Mathlib.Data.List.TakeWhile

/-! Cutting text at a mark, a prefix or a suffix, putting it together again, and finding one
text in another. -/
namespace Ktstr.Library.Text
open List Option

def stripPrefix (text start : String) : Option String :=
  if start.toList <+: text.toList then some (String.ofList (text.toList.drop start.toList.length)) else none

def stripSuffix (text ending : String) : Option String :=
  if ending.toList <:+ text.toList then
    some (String.ofList (text.toList.take (text.toList.length - ending.toList.length)))
  else none

variable (mark : Char)

def splitOnce (text : String) : Option (String × String) :=
  match text.toList.dropWhile (· != mark) with
  | [] => none
  | _::rest => some (String.ofList (text.toList.takeWhile (· != mark)),String.ofList rest)

def find (pattern : List Char) : List Char → Option Nat
  | [] => if pattern.isEmpty then some 0 else none
  | c::rest => if pattern.isPrefixOf (c::rest) then some 0 else (find pattern rest).map Nat.succ

def splitOnceOn (pattern : String) (text : String) : Option (String × String) :=
  (find pattern.toList text.toList).map fun start =>
    (String.ofList (text.toList.take start),String.ofList (text.toList.drop (start + pattern.toList.length)))

def rsplitOnce (text : String) : Option (String × String) :=
  match text.toList.reverse.dropWhile (· != mark) with
  | [] => none
  | _::before =>
    some (String.ofList before.reverse,String.ofList (text.toList.reverse.takeWhile (· != mark)).reverse)

def split (text : String) : List String := (text.toList.splitOn mark).map String.ofList

def occurs (pattern : List Char) : List Char → Bool
  | [] => pattern.isEmpty
  | c::rest => pattern.isPrefixOf (c::rest) || occurs pattern rest

def contains (text pattern : String) : Bool := occurs pattern.toList text.toList

def rfind (pattern : List Char) : List Char → Option Nat
  | [] => if pattern.isEmpty then some 0 else none
  | c::rest =>
    match rfind pattern rest with
    | some later => some (later + 1)
    | none => if pattern.isPrefixOf (c::rest) then some 0 else none

def trimStart (space : Char → Bool) (text : List Char) : List Char := text.dropWhile space

def trimEnd (space : Char → Bool) (text : List Char) : List Char := (text.reverse.dropWhile space).reverse

def trim (space : Char → Bool) (text : List Char) : List Char := trimEnd space (trimStart space text)

/-- Lines without their ends, which are a line feed with or without a carriage return before it. -/
def lines (text : String) : List String :=
  let parts := text.toList.splitOn '\n'
  let ended := parts.dropLast.map fun line => String.ofList (if line.getLast? = some '\r' then line.dropLast else line)
  match parts.getLast? with
  | none | some [] => ended
  | some rest => ended ++ [String.ofList rest]

variable (pattern : List Char)

theorem occurs_iff (text : List Char) : occurs pattern text ↔ pattern <:+: text := by
  induction text with
  | nil => simp [occurs]
  | cons c rest ih => rw [occurs,Bool.or_eq_true,List.isPrefixOf_iff_prefix,ih,infix_cons_iff]

theorem mem_split (text : String) (c : Char) (member : c ∈ text.toList) :
    c = mark ∨ ∃ part ∈ split mark text, c ∈ part.toList := by
  have among (parts : List (List Char)) (inside : c ∈ [mark].intercalate parts) : c = mark ∨ ∃ part ∈ parts, c ∈ part := by
    induction parts with
    | nil => exact absurd inside (by simp)
    | cons part rest ih =>
      cases rest with
      | nil => exact Or.inr ⟨part,by simp,by simpa using inside⟩
      | cons next rest =>
        rw [intercalate_cons_cons,append_assoc,mem_append,singleton_append,mem_cons] at inside
        rcases inside with first | rfl | later
        · exact Or.inr ⟨part,by simp,first⟩
        · exact Or.inl rfl
        · rcases ih later with same | ⟨other,listed,held⟩
          · exact Or.inl same
          · exact Or.inr ⟨other,mem_cons_of_mem part listed,held⟩
  have whole : [mark].intercalate (text.toList.splitOn mark) = text.toList := intercalate_splitOn mark
  rw [← whole] at member
  rcases among _ member with same | ⟨part,listed,held⟩
  · exact Or.inl same
  · exact Or.inr ⟨String.ofList part,mem_map.mpr ⟨part,listed,rfl⟩,by rwa [String.toList_ofList]⟩

theorem find_isSome (text : List Char) : (find pattern text).isSome = occurs pattern text := by
  induction text with
  | nil =>
    rw [find,occurs]
    cases pattern.isEmpty <;> rfl
  | cons c rest ih =>
    rw [find,occurs,← ih]
    cases pattern.isPrefixOf (c::rest) <;> simp

theorem find_eq (text : List Char) (start : Nat) (found : find pattern text = some start) :
    text = text.take start ++ pattern ++ text.drop (start + pattern.length) := by
  induction text generalizing start with
  | nil =>
    rw [find] at found
    split at found
    · next empty =>
      simp [List.isEmpty_iff.mp empty]
    · exact absurd found (by simp)
  | cons c rest ih =>
    rw [find] at found
    split at found
    · next starts =>
      obtain rfl := some.inj found
      obtain ⟨behind,whole⟩ := isPrefixOf_iff_prefix.mp starts
      rw [← whole]
      simp
    · obtain ⟨later,place,rfl⟩ := map_eq_some_iff.mp found
      have whole := ih later place
      rw [Nat.succ_eq_add_one,take_succ_cons,Nat.add_right_comm,drop_succ_cons,cons_append,cons_append,← whole]

variable {after : String}

theorem splitOnceOn_eq {pattern text before : String} (cut : splitOnceOn pattern text = some (before,after)) :
    text.toList = before.toList ++ pattern.toList ++ after.toList := by
  obtain ⟨start,found,pair⟩ := map_eq_some_iff.mp cut
  obtain ⟨rfl,rfl⟩ := Prod.mk.inj pair
  rw [String.toList_ofList,String.toList_ofList]
  exact find_eq _ _ start found

theorem stripPrefix_eq {text start rest : String} (cut : stripPrefix text start = some rest) :
    text.toList = start.toList ++ rest.toList := by
  unfold stripPrefix at cut
  split at cut
  · next starts =>
    obtain rfl := some.inj cut
    rw [String.toList_ofList]
    exact (prefix_iff_eq_append.mp starts).symm
  · exact absurd cut (by simp)

theorem stops_at_mark {mark head : Char} {text rest : List Char}
    (dropped : text.dropWhile (· != mark) = head::rest) : head = mark := by
  have stopped := head_dropWhile_not (· != mark) (w := by rw [dropped]; exact cons_ne_nil _ _)
  simpa [dropped] using stopped

theorem rsplitOnce_eq {mark : Char} {text before : String} (cut : rsplitOnce mark text = some (before,after)) :
    text.toList = before.toList ++ mark::after.toList := by
  unfold rsplitOnce at cut
  cases dropped : text.toList.reverse.dropWhile (· != mark) with
  | nil =>
    rw [dropped] at cut
    exact absurd cut (by simp)
  | cons head rest =>
    rw [dropped] at cut
    obtain ⟨rfl,rfl⟩ := Prod.mk.inj (Option.some.inj cut)
    have whole : text.toList = (text.toList.reverse.takeWhile (· != mark) ++ head::rest).reverse := by
      rw [← dropped,takeWhile_append_dropWhile,reverse_reverse]
    refine whole.trans ?_
    rw [stops_at_mark dropped]
    simp

theorem rsplitOnce_last {mark : Char} (before after : List Char) (free : mark ∉ after) :
    rsplitOnce mark (String.ofList (before ++ mark::after)) = some (String.ofList before,String.ofList after) := by
  have other : ∀ c ∈ after.reverse, (c != mark) :=
    fun c member => bne_iff_ne.mpr fun same => free (same ▸ mem_reverse.mp member)
  have whole : (before ++ mark::after).reverse = after.reverse ++ mark::before.reverse := by simp
  rw [rsplitOnce,String.toList_ofList,whole,dropWhile_append_of_pos other,dropWhile_cons_of_neg (by simp),
    takeWhile_append_of_pos other,takeWhile_cons_of_neg (by simp)]
  simp

theorem splitOnce_eq {mark : Char} {text before : String} (cut : splitOnce mark text = some (before,after)) :
    text = before ++ String.singleton mark ++ after := by
  unfold splitOnce at cut
  cases dropped : text.toList.dropWhile (· != mark) with
  | nil =>
    rw [dropped] at cut
    exact absurd cut (by simp)
  | cons head rest =>
    rw [dropped] at cut
    obtain ⟨rfl,rfl⟩ := Prod.mk.inj (Option.some.inj cut)
    have whole : text.toList.takeWhile (· != mark) ++ head::rest = text.toList := by
      rw [← dropped]
      exact takeWhile_append_dropWhile
    rw [← String.toList_inj]
    simp only [String.toList_append,String.toList_ofList,String.toList_singleton,append_assoc,singleton_append]
    rw [← stops_at_mark dropped] at whole ⊢
    exact whole.symm

theorem splitOnce_isSome (text : String) : (splitOnce mark text).isSome ↔ mark ∈ text.toList := by
  unfold splitOnce
  cases dropped : text.toList.dropWhile (· != mark) with
  | nil =>
    have all := dropWhile_eq_nil_iff.mp dropped
    simp only [isSome_none,Bool.false_eq_true,false_iff]
    intro inside
    simpa using all mark inside
  | cons head rest =>
    have inside : head ∈ text.toList := (dropWhile_sublist _).subset (by rw [dropped]; exact mem_cons_self)
    simpa [stops_at_mark dropped] using inside

theorem splitOnce_first (before after : List Char) (free : mark ∉ before) :
    splitOnce mark (String.ofList (before ++ mark::after)) = some (String.ofList before,String.ofList after) := by
  have other : ∀ c ∈ before, (c != mark) := fun c member => bne_iff_ne.mpr fun same => free (same ▸ member)
  rw [splitOnce,String.toList_ofList,dropWhile_append_of_pos other,dropWhile_cons_of_neg (by simp),
    takeWhile_append_of_pos other,takeWhile_cons_of_neg (by simp),append_nil]

theorem takeWhile_cut {inside : Char → Bool} {front : List Char} {mark : Char} {rest : List Char}
    (all : ∀ c ∈ front, inside c) (outside : inside mark = false) :
    (front ++ mark::rest).takeWhile inside = front := by
  rw [takeWhile_append_of_pos all,takeWhile_cons_of_neg (by simp [outside]),append_nil]

theorem cut_inj (inside : Char → Bool) {first second : List Char} {mark : Char} {x y : List Char}
    (left : ∀ c ∈ first, inside c) (right : ∀ c ∈ second, inside c) (outside : inside mark = false)
    (same : first ++ mark::x = second ++ mark::y) : first = second ∧ x = y := by
  have equal : first = second := by
    rw [← takeWhile_cut left outside,same,takeWhile_cut right outside]
  subst equal
  exact ⟨rfl,(List.cons.inj (append_cancel_left same)).2⟩

theorem toString_letters (n : Nat) : (toString n).toList = Nat.toDigits 10 n := by
  rw [Nat.toString_eq_ofList_toDigits,String.toList_ofList]

theorem isDigit_of_mem_numeral (n : Nat) (c : Char) (member : c ∈ (toString n).toList) : c.isDigit := by
  rw [toString_letters] at member
  exact Nat.isDigit_of_mem_toDigits (by omega) (by omega) member

theorem numeral_inj {a b : Nat} {mark : Char} {x y : List Char} (letter : mark.isDigit = false)
    (same : (toString a).toList ++ mark::x = (toString b).toList ++ mark::y) : a = b ∧ x = y := by
  obtain ⟨numerals,rest⟩ := cut_inj Char.isDigit (isDigit_of_mem_numeral a) (isDigit_of_mem_numeral b) letter same
  rw [toString_letters,toString_letters] at numerals
  refine ⟨?_,rest⟩
  rw [← Nat.ofDigitChars_ten_toDigits (n := a),numerals,Nat.ofDigitChars_ten_toDigits]

/-! Trimming. -/

def Trimmed (space : Char → Bool) (text : List Char) : Prop :=
  (∀ c, text.head? = some c → space c = false) ∧ ∀ c, text.getLast? = some c → space c = false

variable (space : Char → Bool) (text : List Char)

theorem trimmed_of_solid (solid : ∀ c ∈ text, space c = false) : Trimmed space text :=
  ⟨fun c head => solid c (mem_of_head? head),fun c last => solid c (mem_of_getLast? last)⟩

theorem dropWhile_eq_self : text.dropWhile space = text ↔ ∀ c, text.head? = some c → space c = false := by
  cases text with
  | nil => simp
  | cons c rest =>
    cases kind : space c with
    | false => simp [kind]
    | true =>
      have shorter := (dropWhile_sublist (l := rest) space).length_le
      simp only [dropWhile_cons_of_pos kind,head?_cons,some.injEq,forall_eq',kind,reduceCtorEq,iff_false]
      intro same
      rw [same,length_cons] at shorter
      omega

theorem trimEnd_eq_self : trimEnd space text = text ↔ ∀ c, text.getLast? = some c → space c = false := by
  rw [trimEnd,reverse_eq_iff,dropWhile_eq_self,head?_reverse]

theorem trimEnd_shorter : trimEnd space text <+: text := by
  rw [← reverse_suffix,trimEnd,reverse_reverse]
  exact dropWhile_suffix space

theorem trim_eq_self_iff : trim space text = text ↔ Trimmed space text := by
  constructor
  · intro same
    have ends : (trimStart space text).length = text.length := by
      have first := (trimEnd_shorter space (trimStart space text)).length_le
      have second := (dropWhile_sublist (l := text) space).length_le
      rw [show trimEnd space (trimStart space text) = text from same] at first
      exact Nat.le_antisymm second first
    have start : trimStart space text = text := (dropWhile_sublist space).eq_of_length ends
    refine ⟨(dropWhile_eq_self space text).mp start,(trimEnd_eq_self space text).mp ?_⟩
    rwa [trim,start] at same
  · rintro ⟨start,stop⟩
    rw [trim,trimStart,(dropWhile_eq_self space text).mpr start,(trimEnd_eq_self space text).mpr stop]

theorem trim_trimStart : trim space (trimStart space text) = trim space text := by
  have start : (text.dropWhile space).dropWhile space = text.dropWhile space := by
    rw [dropWhile_eq_self]
    intro c head
    simpa [head] using head?_dropWhile_not space text
  rw [trim,trim,trimStart,trimStart,start]

variable {text}

theorem trimEnd_append_spaces {back : List Char} (spaces : ∀ c ∈ back, space c) :
    trimEnd space (text ++ back) = trimEnd space text := by
  rw [trimEnd,reverse_append,dropWhile_append_of_pos (by simpa using spaces),trimEnd]

theorem trimEnd_split : ∃ back, text = trimEnd space text ++ back ∧ ∀ c ∈ back, space c := by
  refine ⟨(text.reverse.takeWhile space).reverse,?_,?_⟩
  · rw [trimEnd,← reverse_append,takeWhile_append_dropWhile,reverse_reverse]
  · intro c member
    exact mem_takeWhile_imp (mem_reverse.mp member)

variable (text)

theorem trim_trimEnd : trim space (trimEnd space text) = trim space text := by
  obtain ⟨back,whole,spaces⟩ := trimEnd_split space
  generalize trimEnd space text = front at whole
  subst whole
  rw [trim,trim,trimStart,trimStart,dropWhile_append]
  split
  · next none =>
    rw [List.isEmpty_iff.mp none,dropWhile_eq_nil_iff.mpr spaces]
  · rw [trimEnd_append_spaces _ spaces]

theorem trim_split : ∃ front back, text = front ++ trim space text ++ back ∧ (∀ c ∈ front, space c) ∧
      ∀ c ∈ back, space c := by
  obtain ⟨back,whole,spaces⟩ := trimEnd_split space
  refine ⟨text.takeWhile space,back,?_,fun c => mem_takeWhile_imp,spaces⟩
  rw [append_assoc,trim,← whole,trimStart,takeWhile_append_dropWhile]

theorem trim_marked (before after : List Char) (mark : Char) (solid : space mark = false) :
    trim space (before ++ mark::after) = trimStart space before ++ mark::trimEnd space after := by
  have start : trimStart space (before ++ mark::after) = trimStart space before ++ mark::after := by
    rw [trimStart,dropWhile_append,trimStart]
    split
    · next none => rw [List.isEmpty_iff.mp none,dropWhile_cons_of_neg (by simp [solid]),nil_append]
    · rfl
  rw [trim,start,trimEnd,reverse_append,reverse_cons,append_assoc,dropWhile_append]
  split
  · next none =>
    rw [trimEnd,List.isEmpty_iff.mp none,singleton_append,dropWhile_cons_of_neg (by simp [solid])]
    simp
  · simp [trimEnd]

end Ktstr.Library.Text
