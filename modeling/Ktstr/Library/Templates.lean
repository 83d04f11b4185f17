import Ktstr.Library.Text

/-! Messages put together from fixed texts and inserted ones, and what can be found in them:
a word that cannot begin in one piece and end in the next is found in one of the pieces. -/
namespace Ktstr.Library.Templates
open List Text

inductive Piece
  | fixed (text : String)
  | inserted (text : String)

namespace Piece

def text : Piece → String
  | fixed text => text
  | inserted text => text

def isFixed : Piece → Bool
  | fixed _ => true
  | inserted _ => false

end Piece

def render (pieces : List Piece) : String := pieces.foldr (fun piece rest => piece.text ++ rest) ""

def insertions (pieces : List Piece) : List String :=
  pieces.filterMap fun
    | .fixed _ => none
    | .inserted text => some text

def joined (between : String) : List String → List Piece
  | [] => []
  | [text] => [.inserted text]
  | text::next::rest => .inserted text::.fixed between::joined between (next::rest)

def fill : List String → List String → List Piece
  | part::parts,arg::args => .fixed part::.inserted arg::fill parts args
  | part::_,[] => [.fixed part]
  | [],_ => []

variable (marks : List Char)

def opens (text : String) : Bool := text.toList.head?.any fun c => !marks.contains c

def closes (text : String) : Bool := text.toList.getLast?.any fun c => !marks.contains c

def bounded (pieces : List Piece) : Bool := pieces.head?.all Piece.isFixed

def seamed : List Piece → Bool
  | [] => true
  | .fixed text::rest => opens marks text && (bounded rest || closes marks text) && seamed rest
  | .inserted _::rest => bounded rest && seamed rest

def sound (parts : List String) : Bool := parts.all fun part => opens marks part && closes marks part

variable {marks}

theorem bounded_fill (parts args : List String) : bounded (fill parts args) := by
  cases parts with
  | nil => rfl
  | cons part parts =>
    cases args with
    | nil => rfl
    | cons arg args => rfl

theorem seamed_fill (parts args : List String) (ok : sound marks parts) : seamed marks (fill parts args) := by
  induction parts generalizing args with
  | nil => rfl
  | cons part parts ih =>
    simp only [sound,all_cons,Bool.and_eq_true] at ok
    cases args with
    | nil => simp [fill,seamed,bounded,ok.1.1]
    | cons arg args => simp [fill,seamed,ok.1.1,ok.1.2,ih args ok.2,bounded_fill]

theorem seamed_append {first second : List Piece} (left : seamed marks first) (right : seamed marks second)
    (next : bounded second) : seamed marks (first ++ second) := by
  induction first with
  | nil => exact right
  | cons piece rest ih =>
    have kept (held : bounded rest) : bounded (rest ++ second) := by
      cases rest with
      | nil => exact next
      | cons next rest => exact held
    cases piece with
    | fixed text =>
      simp only [seamed,Bool.and_eq_true,Bool.or_eq_true] at left
      simp only [cons_append,seamed,Bool.and_eq_true,Bool.or_eq_true]
      exact ⟨⟨left.1.1,left.1.2.imp_left kept⟩,ih left.2⟩
    | inserted text =>
      simp only [seamed,Bool.and_eq_true] at left
      simp only [cons_append,seamed,Bool.and_eq_true]
      exact ⟨kept left.1,ih left.2⟩

theorem bounded_append {first second : List Piece} (left : bounded first) (right : bounded second) :
    bounded (first ++ second) := by
  cases first with
  | nil => exact right
  | cons piece rest => exact left

theorem seamed_joined {between : String} {texts : List String} (start : opens marks between)
    (stop : closes marks between) : seamed marks (joined between texts) := by
  induction texts with
  | nil => rfl
  | cons text rest ih =>
    cases rest with
    | nil => rfl
    | cons next rest => simp [joined,seamed,bounded,Piece.isFixed,start,stop,ih]

theorem seamed_flatMap {α : Type} {items : List α} {pieces : α → List Piece} (each : ∀ item, seamed marks (pieces item))
    (start : ∀ item, bounded (pieces item)) :
    seamed marks (items.flatMap pieces) ∧ bounded (items.flatMap pieces) := by
  induction items with
  | nil => exact ⟨rfl,rfl⟩
  | cons item items ih =>
    exact ⟨seamed_append (each item) ih.1 ih.2,bounded_append (start item) ih.2⟩

@[simp] theorem insertions_nil : insertions [] = [] := rfl

@[simp] theorem insertions_fixed (text : String) (rest : List Piece) : insertions (.fixed text::rest) = insertions rest :=
  rfl

@[simp] theorem insertions_inserted (text : String) (rest : List Piece) :
    insertions (.inserted text::rest) = text::insertions rest := rfl

@[simp] theorem insertions_fill {parts args : List String} :
    insertions (fill parts args) = args.take parts.length := by
  induction parts generalizing args with
  | nil => rfl
  | cons part parts ih =>
    cases args with
    | nil => rfl
    | cons arg args => simp [fill,ih]

@[simp] theorem insertions_append (first second : List Piece) :
    insertions (first ++ second) = insertions first ++ insertions second := filterMap_append

@[simp] theorem insertions_flatMap {α : Type} (items : List α) (pieces : α → List Piece) :
    insertions (items.flatMap pieces) = items.flatMap fun item => insertions (pieces item) := by
  induction items with
  | nil => rfl
  | cons item items ih => simp [ih]

@[simp] theorem insertions_joined (between : String) (texts : List String) : insertions (joined between texts) = texts := by
  induction texts with
  | nil => rfl
  | cons text rest ih =>
    cases rest with
    | nil => rfl
    | cons next rest => exact congrArg (List.cons text) ih

theorem opens_append {first second : String} (start : opens marks first) : opens marks (first ++ second) := by
  rw [opens]
  unfold opens at start
  cases letters : first.toList with
  | nil => simp [letters] at start
  | cons c rest => simpa [letters] using start

theorem opens_render {pieces : List Piece} (seams : seamed marks pieces) (next : bounded pieces) :
    render pieces = "" ∨ opens marks (render pieces) := by
  cases pieces with
  | nil => exact Or.inl rfl
  | cons piece rest =>
    cases piece with
    | fixed text =>
      simp only [seamed,Bool.and_eq_true] at seams
      exact Or.inr (opens_append seams.1.1)
    | inserted text => exact absurd next (by simp [bounded,Piece.isFixed])

theorem opens_cons {c : Char} {text : String} {rest : List Char} (letters : text.toList = c::rest)
    (start : opens marks text) : c ∉ marks := by
  simpa [opens,letters] using start

theorem closes_concat {c : Char} {text : String} {init : List Char} (letters : text.toList = init ++ [c])
    (stop : closes marks text) : c ∉ marks := by
  simpa [closes,letters] using stop

theorem infix_seam {word : List Char} {first second : String} (beyond : ∀ c ∈ word, c ∈ marks)
    (seam : second = "" ∨ opens marks second ∨ closes marks first) :
    word <:+: first.toList ++ second.toList ↔ word <:+: first.toList ∨ word <:+: second.toList := by
  rw [infix_append_iff]
  refine ⟨?_,fun found => found.imp_right Or.inl⟩
  rintro (here | there | ⟨front,back,rfl,suffix,start⟩)
  · exact Or.inl here
  · exact Or.inr there
  · cases back with
    | nil =>
      rw [append_nil]
      exact Or.inl suffix.isInfix
    | cons b back =>
      rcases seam with rfl | starts | stops
      · exact absurd (prefix_nil.mp start) (by simp)
      · obtain ⟨tail,letters⟩ := start
        exact absurd (beyond b (by simp)) (opens_cons letters.symm starts)
      · rcases eq_nil_or_concat front with rfl | ⟨init,f,rfl⟩
        · exact Or.inr start.isInfix
        · obtain ⟨before,letters⟩ := suffix
          rw [concat_eq_append,← append_assoc] at letters
          exact absurd (beyond f (by simp)) (closes_concat letters.symm stops)

variable (word text : String) (rest : List Piece)

theorem contains_render {pieces : List Piece} {word : String} (seams : seamed marks pieces)
    (beyond : ∀ c ∈ word.toList, c ∈ marks) (nonempty : word ≠ "") :
    contains (render pieces) word ↔ ∃ piece ∈ pieces, contains piece.text word := by
  simp only [Text.contains,occurs_iff]
  induction pieces with
  | nil =>
    have letters : word.toList ≠ [] := by simpa using nonempty
    simpa [render] using letters
  | cons piece rest ih =>
    have unfolded : render (piece::rest) = piece.text ++ render rest := rfl
    have tail : seamed marks rest := by
      cases piece <;> simp only [seamed,Bool.and_eq_true] at seams <;> exact seams.2
    have seam : render rest = "" ∨ opens marks (render rest) ∨ closes marks piece.text := by
      have open_next (next : bounded rest) : render rest = "" ∨ opens marks (render rest) ∨ closes marks piece.text :=
        (opens_render tail next).imp_right Or.inl
      cases piece with
      | fixed text =>
        simp only [seamed,Bool.and_eq_true,Bool.or_eq_true] at seams
        exact seams.1.2.elim open_next fun stops => Or.inr (Or.inr stops)
      | inserted text =>
        simp only [seamed,Bool.and_eq_true] at seams
        exact open_next seams.1
    rw [unfolded,String.toList_append,infix_seam beyond seam,ih tail]
    simp

def fixedContains (word : String) (pieces : List Piece) : Bool :=
  pieces.any fun piece => piece.isFixed && contains piece.text word

theorem contains_render_iff {pieces : List Piece} {word : String} (seams : seamed marks pieces)
    (beyond : ∀ c ∈ word.toList, c ∈ marks) (nonempty : word ≠ "") :
    contains (render pieces) word ↔
      fixedContains word pieces ∨ ∃ text ∈ insertions pieces, contains text word := by
  rw [contains_render seams beyond nonempty]
  simp only [fixedContains,any_eq_true,Bool.and_eq_true,insertions,mem_filterMap]
  constructor
  · rintro ⟨piece,member,found⟩
    cases piece with
    | fixed text => exact Or.inl ⟨_,member,rfl,found⟩
    | inserted text => exact Or.inr ⟨text,⟨_,member,rfl⟩,found⟩
  · rintro (⟨piece,member,-,found⟩ | ⟨text,⟨piece,member,same⟩,found⟩)
    · exact ⟨piece,member,found⟩
    · cases piece with
      | fixed other => exact absurd same (by simp)
      | inserted other =>
        obtain rfl : other = text := by simpa using same
        exact ⟨_,member,found⟩

@[simp] theorem fixedContains_nil : fixedContains word [] = false := rfl

@[simp] theorem fixedContains_fixed :
    fixedContains word (.fixed text::rest) = (contains text word || fixedContains word rest) := by
  simp [fixedContains,Piece.isFixed,Piece.text]

@[simp] theorem fixedContains_inserted : fixedContains word (.inserted text::rest) = fixedContains word rest := by
  simp [fixedContains,Piece.isFixed]

@[simp] theorem fixedContains_append (first second : List Piece) :
    fixedContains word (first ++ second) = (fixedContains word first || fixedContains word second) := any_append

theorem fixedContains_fill (parts args : List String) (free : parts.all fun part => !contains part word) :
    fixedContains word (fill parts args) = false := by
  induction parts generalizing args with
  | nil => rfl
  | cons part parts ih =>
    rw [all_cons,Bool.and_eq_true,Bool.not_eq_true'] at free
    cases args with
    | nil => simp [fill,free.1]
    | cons arg args => simp [fill,free.1,ih args free.2]

theorem fixedContains_joined (between : String) (texts : List String) (free : contains between word = false) :
    fixedContains word (joined between texts) = false := by
  induction texts with
  | nil => rfl
  | cons text rest ih =>
    cases rest with
    | nil => simp [joined]
    | cons next rest => simp [joined,free,ih]

theorem fixedContains_flatMap {α : Type} {items : List α} {pieces : α → List Piece}
    (each : ∀ item, fixedContains word (pieces item) = false) :
    fixedContains word (items.flatMap pieces) = false := by
  induction items with
  | nil => rfl
  | cons item items ih => rw [flatMap_cons,fixedContains_append,each item,ih]; rfl

end Ktstr.Library.Templates
