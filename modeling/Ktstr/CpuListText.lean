import Ktstr.Library.Fallible
import Ktstr.Source.CpuLists

/-! A set of CPUs printed as ranges and read back by each of the parsers. -/
namespace Ktstr.CpuListText
open List Library.Fallible Library.Text Library.Words Source Source.Patterns Source.CpuLists
open Source.VmTopology (u32Span)

/-- Ids of 32 bits, in runs no longer than the capped parser expands. -/
structure Printable (cpus : Finset Nat) : Prop where
  nonempty : cpus.Nonempty
  small : ∀ cpu ∈ cpus, cpu < u32Span
  runs : ∀ lo hi, lo ≤ hi → (∀ cpu, lo ≤ cpu → cpu ≤ hi → cpu ∈ cpus) → hi - lo + 1 ≤ maxCpuRangeExpansion

theorem inclusive_self (cpu : Nat) : inclusive cpu cpu = [cpu] := by
  rw [inclusive,Nat.add_sub_cancel_left]
  rfl

theorem inclusive_succ {lo hi : Nat} (ordered : lo ≤ hi) : inclusive lo (hi + 1) = inclusive lo hi ++ [hi + 1] := by
  rw [inclusive,Nat.succ_sub (show lo ≤ hi + 1 by omega),range'_1_concat]
  congr 2
  omega

theorem mem_inclusive {lo hi cpu : Nat} : cpu ∈ inclusive lo hi ↔ lo ≤ cpu ∧ cpu ≤ hi := by
  rw [inclusive,mem_range'_1]
  omega

variable (start stop : Nat) (rest : List Nat)

theorem ranges_expand (ordered : start ≤ stop) :
    (ranges start stop rest).flatMap (fun range => inclusive range.1 range.2) = inclusive start stop ++ rest := by
  induction rest generalizing start stop with
  | nil => simp [CpuLists.ranges]
  | cons cpu rest ih =>
    rw [CpuLists.ranges]
    split
    · next adjacent =>
      subst adjacent
      rw [ih start (stop + 1) (Nat.le_succ_of_le ordered),inclusive_succ ordered,append_assoc,singleton_append]
    · rw [flatMap_cons,ih cpu cpu (Nat.le_refl _),inclusive_self,singleton_append]

theorem ranges_ordered (ordered : start ≤ stop) : ∀ range ∈ ranges start stop rest, range.1 ≤ range.2 := by
  induction rest generalizing start stop with
  | nil => simpa [CpuLists.ranges] using ordered
  | cons cpu rest ih =>
    intro range member
    rw [CpuLists.ranges] at member
    split at member
    · next adjacent => exact ih start cpu (by omega) range member
    · rcases mem_cons.mp member with rfl | later
      · exact ordered
      · exact ih cpu cpu (Nat.le_refl _) range later

theorem ranges_ne_nil : ranges start stop rest ≠ [] := by
  induction rest generalizing start stop with
  | nil => exact cons_ne_nil _ _
  | cons cpu rest ih =>
    rw [CpuLists.ranges]
    split
    · exact ih start cpu
    · exact cons_ne_nil _ _

/-! Numbers -/

theorem le_ofDigitChars (digits : List Char) (value : Nat) : value ≤ Nat.ofDigitChars 10 digits value := by
  induction digits generalizing value with
  | nil => exact Nat.le_refl _
  | cons c rest ih =>
    rw [Nat.ofDigitChars_cons]
    have step := ih (10 * value + (c.toNat - '0'.toNat))
    omega

theorem readDigits_eq (span value : Nat) (digits : List Char) (all : ∀ c ∈ digits, c.isDigit)
    (fits : Nat.ofDigitChars 10 digits value < span) :
    readDigits span value digits = .ok (Nat.ofDigitChars 10 digits value) := by
  induction digits generalizing value with
  | nil => rfl
  | cons c rest ih =>
    have below := Nat.lt_of_le_of_lt (le_ofDigitChars rest _) fits
    rw [readDigits,all c mem_cons_self]
    simp only [Bool.not_true,if_pos below]
    exact ih _ (fun d member => all d (mem_cons_of_mem c member)) fits

theorem parseUnsigned_numeral (span n : Nat) (fits : n < span) : parseUnsigned span (toString n) = .ok n := by
  have digits := isDigit_of_mem_numeral n
  have read : readDigits span 0 (toString n).toList = .ok n := by
    rw [toString_letters] at digits ⊢
    rw [readDigits_eq span 0 _ digits (by rw [Nat.ofDigitChars_ten_toDigits]; exact fits),
      Nat.ofDigitChars_ten_toDigits]
  unfold parseUnsigned
  split
  · next none => 
    rw [toString_letters] at none
    exact absurd none (Nat.toDigits_ne_nil)
  · next sign => exact absurd (digits '+' (by rw [sign]; simp)) (by decide)
  · next sign => exact absurd (digits '+' (by rw [sign]; simp)) (by decide)
  · exact read

/-! Parts of a printed list -/

theorem numeral_free (n : Nat) (mark : Char) (letter : mark.isDigit = false) : mark ∉ (toString n).toList := by
  intro member
  rw [isDigit_of_mem_numeral n mark member] at letter
  cases letter

theorem rangeText_letters {c : Char} (member : c ∈ (rangeText start stop).toList) : c.isDigit ∨ c = '-' := by
  unfold rangeText at member
  split at member
  · exact Or.inl (isDigit_of_mem_numeral start c member)
  · simp only [String.toList_append,mem_append] at member
    rcases member with (front | dash) | back
    · exact Or.inl (isDigit_of_mem_numeral start c front)
    · exact Or.inr (by simpa using dash)
    · exact Or.inl (isDigit_of_mem_numeral stop c back)

theorem isWhitespace_of_isDigit {c : Char} (digit : c.isDigit) : isWhitespace c = false := by
  have bounds : 48 ≤ c.toNat ∧ c.toNat ≤ 57 := by
    rw [Char.isDigit,Bool.and_eq_true,decide_eq_true_iff,decide_eq_true_iff] at digit
    exact ⟨UInt32.le_iff_toNat_le.mp digit.1,UInt32.le_iff_toNat_le.mp digit.2⟩
  simp only [isWhitespace,Bool.or_eq_false_iff,Bool.and_eq_false_iff,decide_eq_false_iff_not,beq_eq_false_iff_ne]
  omega

theorem rangeText_solid (c : Char) (member : c ∈ (rangeText start stop).toList) :
    isWhitespace c = false ∧ c ≠ ',' := by
  rcases rangeText_letters start stop member with digit | rfl
  · refine ⟨isWhitespace_of_isDigit digit,?_⟩
    rintro rfl
    cases digit
  · decide

theorem numeral_nonempty {n : Nat} : (toString n).toList ≠ [] := by
  rw [toString_letters]
  exact Nat.toDigits_ne_nil

theorem rangeText_nonempty : rangeText start stop ≠ "" := by
  intro empty
  have letters := congrArg String.toList empty
  unfold rangeText at letters
  split at letters
  · exact numeral_nonempty letters
  · simp at letters

theorem splitOnce_rangeText :
    splitOnce '-' (rangeText start stop) = if start = stop then none else some (toString start,toString stop) := by
  unfold rangeText
  split
  · rw [← Option.not_isSome_iff_eq_none,splitOnce_isSome]
    exact numeral_free start '-' (by decide)
  · have cut := splitOnce_first '-' (toString start).toList (toString stop).toList (numeral_free start '-' (by decide))
    rw [String.ofList_toList,String.ofList_toList] at cut
    have letters : toString start ++ "-" ++ toString stop =
        String.ofList ((toString start).toList ++ '-'::(toString stop).toList) := by
      rw [String.ofList_append,String.ofList_cons,String.ofList_toList,String.ofList_toList,String.append_assoc]
      rfl
    rw [letters]
    exact cut

theorem parsePart_rangeText (ordered : start ≤ stop) (fits : stop < wordSpan) :
    parsePart (rangeText start stop) = .ok (inclusive start stop) := by
  unfold parsePart
  rw [splitOnce_rangeText]
  by_cases same : start = stop
  · subst same
    rw [if_pos rfl,rangeText,if_pos rfl]
    simp only [parseUnsigned_numeral wordSpan start fits]
    rw [inclusive_self]
    rfl
  · rw [if_neg same]
    simp only [parseUnsigned_numeral wordSpan start (by omega),parseUnsigned_numeral wordSpan stop fits]
    rfl

theorem cappedToken_rangeText (ordered : start ≤ stop) (fits : stop < u32Span)
    (short : stop - start + 1 ≤ maxCpuRangeExpansion) :
    cappedToken (rangeText start stop) = some (inclusive start stop) := by
  unfold cappedToken
  rw [splitOnce_rangeText]
  by_cases same : start = stop
  · subst same
    rw [if_pos rfl,rangeText,if_pos rfl]
    simp only [parseUnsigned_numeral u32Span start fits]
    rw [inclusive_self]
    rfl
  · rw [if_neg same]
    simp only [parseUnsigned_numeral u32Span start (by omega),parseUnsigned_numeral u32Span stop fits,
      Except.toOption,Option.bind_eq_bind,Option.bind_some]
    rw [if_neg (Nat.not_lt.mpr ordered),if_neg (Nat.not_lt.mpr short)]
    rfl

theorem lenientPart_of_parsePart (part : String) (cpus : List Nat) (read : parsePart part = .ok cpus) :
    lenientPart part = cpus := by
  unfold parsePart at read
  unfold lenientPart
  cases cut : splitOnce '-' part with
  | none =>
    rw [cut] at read
    cases value : parseUnsigned wordSpan part with
    | error message =>
      simp only [value] at read
      cases read
    | ok cpu =>
      simp only [value] at read ⊢
      cases read
      rfl
  | some ends =>
    obtain ⟨lo,hi⟩ := ends
    rw [cut] at read
    cases low : parseUnsigned wordSpan lo with
    | error message =>
      simp only [low] at read
      cases read
    | ok first =>
      cases high : parseUnsigned wordSpan hi with
      | error message =>
        simp only [low,high] at read
        cases read
      | ok last =>
        simp only [low,high] at read ⊢
        cases read
        rfl

theorem lenient_of_mapM (texts : List String) (cpus : List (List Nat)) (read : texts.mapM parsePart = .ok cpus) :
    texts.flatMap lenientPart = cpus.flatten := by
  induction texts generalizing cpus with
  | nil =>
    cases read
    rfl
  | cons text texts ih =>
    rw [mapM_cons] at read
    cases first : parsePart text with
    | error message =>
      rw [first] at read
      cases read
    | ok front =>
      cases others : texts.mapM parsePart with
      | error message =>
        rw [first,others] at read
        cases read
      | ok back =>
        rw [first,others] at read
        cases read
        rw [flatMap_cons,flatten_cons,lenientPart_of_parsePart text front first,ih back others]

/-! A printed list -/

theorem trimmed_solid {text : String} (solid : ∀ c ∈ text.toList, isWhitespace c = false) : trimmed text = text := by
  rw [trimmed,(trim_eq_self_iff isWhitespace _).mpr (trimmed_of_solid isWhitespace _ solid),String.ofList_toList]

theorem parts_printed (texts : List String) (some : texts ≠ [])
    (solid : ∀ text ∈ texts, ∀ c ∈ text.toList, isWhitespace c = false ∧ c ≠ ',') (filled : ∀ text ∈ texts, text ≠ "") :
    trimmed (String.intercalate "," texts) = String.intercalate "," texts ∧
      parts (String.intercalate "," texts) = texts := by
  have pieces : split ',' (String.intercalate "," texts) = texts := by
    rw [split,String.toList_intercalate,show ",".toList = [','] from rfl,splitOn_intercalate]
    · rw [map_map]
      exact (map_congr_left fun text _ => String.ofList_toList).trans (map_id _)
    · intro letters member comma
      obtain ⟨text,listed,rfl⟩ := mem_map.mp member
      exact (solid text listed ',' comma).2 rfl
    · simpa using some
  have whole : trimmed (String.intercalate "," texts) = String.intercalate "," texts := by
    apply trimmed_solid
    intro c member
    rcases mem_split ',' _ c member with rfl | ⟨part,listed,held⟩
    · decide
    · rw [pieces] at listed
      exact (solid part listed c held).1
  refine ⟨whole,?_⟩
  rw [parts,whole,pieces]
  have each : texts.map trimmed = texts := by
    refine (map_congr_left fun text listed => ?_).trans (map_id _)
    exact trimmed_solid fun c member => (solid text listed c member).1
  rw [each,filter_eq_self]
  intro text listed
  simpa [String.isEmpty_iff] using filled text listed

theorem sorted_sort (cpus : Finset Nat) : cpus.sort.insertionSort (· ≤ ·) = cpus.sort :=
  (cpus.pairwise_sort _).insertionSort_eq

/-- The runs a set of CPUs is printed as, in order. -/
theorem cpusetString_runs {cpus : Finset Nat} (filled : cpus.Nonempty) :
    ∃ runs : List (Nat × Nat), runs ≠ [] ∧
      (∀ run ∈ runs, run.1 ≤ run.2 ∧ ∀ cpu, run.1 ≤ cpu → cpu ≤ run.2 → cpu ∈ cpus) ∧
      (runs.map fun run => inclusive run.1 run.2).flatten = cpus.sort ∧
      trimmed (cpusetString cpus) = cpusetString cpus ∧
      parts (cpusetString cpus) = runs.map fun run => rangeText run.1 run.2 := by
  cases listed : cpus.sort with
  | nil =>
    obtain ⟨cpu,member⟩ := filled
    have inside := (cpus.mem_sort (· ≤ ·)).mpr member
    rw [listed] at inside
    cases inside
  | cons first rest =>
    have expand := ranges_expand first first rest (Nat.le_refl _)
    rw [inclusive_self,singleton_append,← listed,flatMap_def] at expand
    obtain ⟨whole,pieces⟩ := parts_printed ((ranges first first rest).map fun range => rangeText range.1 range.2)
      (by simpa using ranges_ne_nil first first rest)
      (by
        intro text member
        obtain ⟨range,_,rfl⟩ := mem_map.mp member
        exact rangeText_solid range.1 range.2)
      (by
        intro text member
        obtain ⟨range,_,rfl⟩ := mem_map.mp member
        exact rangeText_nonempty range.1 range.2)
    have texts : cpusetString cpus =
        String.intercalate "," ((ranges first first rest).map fun range => rangeText range.1 range.2) := by
      rw [cpusetString,listed]
    rw [← texts] at whole pieces
    refine ⟨_,ranges_ne_nil first first rest,?_,expand.trans listed,whole,pieces⟩
    intro run member
    refine ⟨ranges_ordered first first rest (Nat.le_refl _) run member,?_⟩
    intro cpu low high
    rw [← cpus.mem_sort (· ≤ ·),← expand]
    exact mem_flatMap.mpr ⟨run,member,mem_inclusive.mpr ⟨low,high⟩⟩

theorem parseCpuList_printed {cpus : Finset Nat} (filled : cpus.Nonempty) (small : ∀ cpu ∈ cpus, cpu < wordSpan) :
    parseCpuList (cpusetString cpus) = .ok cpus.sort := by
  obtain ⟨runs,_,inside,expand,_,pieces⟩ := cpusetString_runs filled
  have read := mapM_pure (fun run : Nat × Nat => rangeText run.1 run.2) parsePart
    (fun run => inclusive run.1 run.2) runs (by
      intro run member
      obtain ⟨ordered,known⟩ := inside run member
      exact parsePart_rangeText _ _ ordered (small _ (known run.2 ordered (Nat.le_refl _))))
  rw [parseCpuList,pieces,read]
  change Except.ok ((runs.map _).flatten.insertionSort _) = _
  rw [expand,sorted_sort]

theorem lenient_of_strict {text : String} {cpus : List Nat} (read : parseCpuList text = .ok cpus) :
    parseCpuListLenient text = cpus := by
  unfold parseCpuList at read
  cases listed : (parts text).mapM parsePart with
  | error message =>
    rw [listed] at read
    cases read
  | ok lists =>
    rw [listed] at read
    cases read
    rw [parseCpuListLenient,lenient_of_mapM _ _ listed]

/-- Printed lists come back from every parser, and the lenient parser agrees with the strict one where that succeeds. -/
theorem cpu_lists_agree :
    (∀ cpus, Printable cpus → parseCpuList (cpusetString cpus) = .ok cpus.sort ∧
      parseCpuListLenient (cpusetString cpus) = cpus.sort ∧ parseCpuListCapped (cpusetString cpus) = some cpus.sort) ∧
    ∀ text cpus, parseCpuList text = .ok cpus → parseCpuListLenient text = cpus := by
  refine ⟨?_,fun _ _ => lenient_of_strict⟩
  intro cpus printable
  have strict := parseCpuList_printed printable.nonempty fun cpu member => (printable.small cpu member).trans (by decide)
  refine ⟨strict,lenient_of_strict strict,?_⟩
  obtain ⟨runs,some,inside,expand,whole,pieces⟩ := cpusetString_runs printable.nonempty
  have read := mapM_pure (fun run : Nat × Nat => rangeText run.1 run.2) cappedToken
    (fun run => inclusive run.1 run.2) runs (by
      intro run member
      obtain ⟨ordered,known⟩ := inside run member
      exact cappedToken_rangeText _ _ ordered (printable.small _ (known run.2 ordered (Nat.le_refl _)))
        (printable.runs _ _ ordered known))
  have filled : ¬ (trimmed (cpusetString cpus)).isEmpty := by
    rw [whole,String.isEmpty_iff]
    intro empty
    rw [empty] at pieces
    exact some (map_eq_nil_iff.mp pieces.symm)
  rw [parseCpuListCapped,if_neg filled,pieces,read]
  change Option.some (((runs.map _).flatten.insertionSort _).destutter _) = _
  rw [expand,sorted_sort,destutter_of_isChain]
  exact (cpus.sortedLT_sort.pairwise.imp fun less => less.ne).isChain

/-- Two runs and a single id. -/
theorem two_runs_agree :
    parseCpuList (cpusetString {0,1,2,5,7,8}) = .ok ({0,1,2,5,7,8} : Finset Nat).sort ∧
      parseCpuListCapped (cpusetString {0,1,2,5,7,8}) = some ({0,1,2,5,7,8} : Finset Nat).sort := by
  have printable : Printable {0,1,2,5,7,8} := by
    refine ⟨by decide,by decide,?_⟩
    intro lo hi ordered all
    have high := all hi ordered (Nat.le_refl _)
    have bound : ∀ cpu ∈ ({0,1,2,5,7,8} : Finset Nat), cpu ≤ 8 := by decide
    have top := bound hi high
    rw [maxCpuRangeExpansion]
    omega
  obtain ⟨strict,_,capped⟩ := cpu_lists_agree.1 _ printable
  exact ⟨strict,capped⟩

end Ktstr.CpuListText
