import Ktstr.KernelLabels

/-! Test names that carry their kernel: the list of kernels comes back from its wire format, and a
name gives back the test and the kernel, as long as no label or directory ends in a space. -/
namespace Ktstr.KernelNames
open List Library.Text Source.Patterns Source.KernelList KernelLabels

/-- The list read from the wire is the one written, and every name built from it is taken apart again. -/
def NamesResolve (quote : String → String) (list : List (String × String)) (wire : String) : Prop :=
  (parseKernelList wire).map (fun entry => (entry.label,entry.kernelDir)) = list ∧
    ∀ name, ∀ entry ∈ parseKernelList wire,
      stripKernelSuffix quote (name ++ "/" ++ entry.sanitized.text) (parseKernelList wire) = .ok (name,some entry)

def Compact (pair : String × String) : Prop :=
  Trimmed isWhitespace pair.1.toList ∧ Trimmed isWhitespace pair.2.toList

variable (quote : String → String) (list : List (String × String))

theorem encode_spec {wire : String} (encoded : encodeKernelList quote list = .ok wire) :
    (∀ pair ∈ list, ';' ∉ pair.1.toList ∧ '=' ∉ pair.1.toList ∧ ';' ∉ pair.2.toList) ∧
      wire = String.intercalate ";" (list.map fun pair => pair.1 ++ "=" ++ pair.2) := by
  unfold encodeKernelList at encoded
  dsimp only at encoded
  split at encoded
  · exact absurd encoded (by simp)
  · exact absurd encoded (by simp)
  · next labels dirs =>
    refine ⟨fun pair listed => ?_,(Except.ok.inj encoded).symm⟩
    have label := findSome?_eq_none_iff.mp labels pair listed
    have dir := findSome?_eq_none_iff.mp dirs pair listed
    rw [ite_eq_right_iff] at dir
    refine ⟨fun member => ?_,fun member => ?_,fun member => ?_⟩
    · rw [if_pos (by simpa using member)] at label
      exact absurd label (Option.some_ne_none _)
    · by_cases semicolon : pair.1.toList.contains ';'
      · rw [if_pos semicolon] at label
        exact absurd label (Option.some_ne_none _)
      · rw [if_neg semicolon,if_pos (by simpa using member)] at label
        exact absurd label (Option.some_ne_none _)
    · exact absurd (dir (by simpa using member)) (Option.some_ne_none _)

def reread (pair : String × String) : Option KernelEntry :=
  let label := String.ofList (trim isWhitespace pair.1.toList)
  let dir := String.ofList (trim isWhitespace pair.2.toList)
  if label.isEmpty || dir.isEmpty then none else some ⟨label,.new label,dir⟩

theorem parse_segment {pair : String × String} (free : '=' ∉ pair.1.toList) :
    parseSegment (pair.1 ++ "=" ++ pair.2) = reread pair := by
  have letters : (pair.1 ++ "=" ++ pair.2).toList = pair.1.toList ++ '='::pair.2.toList := by simp
  have clean : '=' ∉ trimStart isWhitespace pair.1.toList := fun member => free ((dropWhile_sublist _).subset member)
  unfold parseSegment reread
  rw [letters,trim_marked isWhitespace _ _ '=' (by decide),if_neg (by simp [String.isEmpty_iff]),
    splitOnce_first '=' _ _ clean]
  simp only [Option.bind_eq_bind,Option.bind_some,String.toList_ofList,trim_trimStart,trim_trimEnd]

theorem parse_wire {wire : String} (some : list ≠ []) (encoded : encodeKernelList quote list = .ok wire) :
    parseKernelList wire = list.filterMap reread := by
  obtain ⟨free,rfl⟩ := encode_spec quote list encoded
  have segments : split ';' (String.intercalate ";" (list.map fun pair => pair.1 ++ "=" ++ pair.2)) =
      list.map fun pair => pair.1 ++ "=" ++ pair.2 := by
    rw [split,String.toList_intercalate,show ";".toList = [';'] from rfl,splitOn_intercalate]
    · rw [map_map]
      exact (map_congr_left fun text _ => String.ofList_toList).trans (map_id _)
    · intro letters listed
      simp only [map_map,mem_map] at listed
      obtain ⟨pair,member,rfl⟩ := listed
      obtain ⟨label,-,dir⟩ := free pair member
      simp [label,dir]
    · simpa using some
  rw [parseKernelList,segments,filterMap_map]
  have each : ∀ pair ∈ list, parseSegment (pair.1 ++ "=" ++ pair.2) = reread pair :=
    fun pair listed => parse_segment (free pair listed).2.1
  clear free encoded segments some
  induction list with
  | nil => rw [filterMap_nil,filterMap_nil]
  | cons pair rest ih =>
    rw [filterMap_cons,filterMap_cons,Function.comp_apply,each pair mem_cons_self,
      ih fun other listed => each other (mem_cons_of_mem pair listed)]

theorem reread_all (same : (list.filterMap reread).map (fun entry => (entry.label,entry.kernelDir)) = list) :
    ∀ pair ∈ list, (reread pair).map (fun entry => (entry.label,entry.kernelDir)) = some pair := by
  induction list with
  | nil => exact fun pair member => absurd member (by simp)
  | cons head rest ih =>
    cases read : reread head with
    | none =>
      rw [filterMap_cons_none read] at same
      have long := congrArg List.length same
      have short := length_filterMap_le reread rest
      rw [length_map,length_cons] at long
      omega
    | some entry =>
      rw [filterMap_cons_some read,map_cons] at same
      obtain ⟨first,others⟩ := List.cons.inj same
      intro pair member
      rcases mem_cons.mp member with rfl | member
      · rw [read,Option.map_some,first]
      · exact ih others pair member

theorem reread_eq_iff {pair : String × String} (label : pair.1 ≠ "") (dir : pair.2 ≠ "") :
    (reread pair).map (fun entry => (entry.label,entry.kernelDir)) = some pair ↔ Compact pair := by
  rw [Compact,← trim_eq_self_iff,← trim_eq_self_iff]
  unfold reread
  dsimp only
  constructor
  · intro same
    split at same
    · exact absurd same (by simp)
    · obtain ⟨first,second⟩ := Prod.ext_iff.mp (Option.some.inj same)
      dsimp only at first second
      exact ⟨by rw [← String.toList_ofList (l := trim isWhitespace pair.1.toList),first],
        by rw [← String.toList_ofList (l := trim isWhitespace pair.2.toList),second]⟩
  · rintro ⟨first,second⟩
    rw [first,second,String.ofList_toList,String.ofList_toList,if_neg (by simp [label,dir])]
    rfl

theorem detect_spec (seen list : List (String × String)) (distinct : detectFrom quote seen list = .ok ()) :
    (list.map fun pair => sanitizeKernelLabel pair.1).Nodup ∧
      ∀ pair ∈ list, seen.lookup (sanitizeKernelLabel pair.1) = none := by
  induction list generalizing seen with
  | nil => exact ⟨nodup_nil,fun pair member => absurd member (by simp)⟩
  | cons head rest ih =>
    obtain ⟨label,dir⟩ := head
    rw [detectFrom] at distinct
    split at distinct
    · exact absurd distinct (by simp)
    · next fresh =>
      obtain ⟨nodup,others⟩ := ih _ distinct
      have apart (pair : String × String) (listed : pair ∈ rest) :
          sanitizeKernelLabel pair.1 ≠ sanitizeKernelLabel label ∧ seen.lookup (sanitizeKernelLabel pair.1) = none := by
        have absent := others pair listed
        rw [lookup_cons] at absent
        split at absent
        · exact absurd absent (by simp)
        · next different => exact ⟨by simpa using different,absent⟩
      refine ⟨?_,?_⟩
      · rw [map_cons,nodup_cons]
        refine ⟨fun member => ?_,nodup⟩
        obtain ⟨pair,listed,same⟩ := mem_map.mp member
        exact (apart pair listed).1 same
      · intro pair member
        rcases mem_cons.mp member with rfl | listed
        · exact fresh
        · exact (apart pair listed).2

theorem suffix_iff (name : String) (first second : SanitizedKernelLabel) :
    stripSuffix (name ++ "/" ++ second.text) ("/" ++ first.text) =
      if first.text = second.text then some name else none := by
  obtain ⟨first,raw,rfl⟩ := first
  obtain ⟨second,raw',rfl⟩ := second
  have letters (text : String) : ("/" ++ text).toList = '/'::text.toList := by simp
  have whole : (name ++ "/" ++ sanitizeKernelLabel raw').toList = name.toList ++ '/'::(sanitizeKernelLabel raw').toList := by
    simp
  rw [stripSuffix,letters,whole]
  split_ifs with ends same same
  · rw [same,length_append,Nat.add_sub_cancel,take_left',String.ofList_toList]
    rfl
  · obtain ⟨front,equal⟩ := ends
    have turned := congrArg List.reverse equal
    simp only [reverse_append,reverse_cons,append_assoc] at turned
    have free (raw : String) : ∀ c ∈ (sanitizeKernelLabel raw).toList.reverse, (c != '/') := by
      intro c member
      rw [mem_reverse] at member
      exact bne_iff_ne.mpr fun slash => sanitize_no_slash (slash ▸ member)
    obtain ⟨back,-⟩ := cut_inj (· != '/') (free raw) (free raw') (by simp) turned
    exact absurd (String.toList_inj.mp (reverse_inj.mp back)) same
  · rw [same] at ends
    exact absurd (suffix_append _ _) ends
  · rfl

theorem first_with_label {name : String} {list : List KernelEntry} {entry : KernelEntry} (listed : entry ∈ list)
    (distinct : (list.map fun other => other.sanitized.text).Nodup) :
    (list.findSome? fun other => (stripSuffix (name ++ "/" ++ entry.sanitized.text) ("/" ++ other.sanitized.text)).map
      (·,other)) = some (name,entry) := by
  induction list with
  | nil => exact absurd listed (by simp)
  | cons head rest ih =>
    rw [map_cons,nodup_cons] at distinct
    rw [findSome?_cons,suffix_iff]
    by_cases same : head.sanitized.text = entry.sanitized.text
    · rcases mem_cons.mp listed with rfl | later
      · simp
      · exact absurd (mem_map.mpr ⟨entry,later,same.symm⟩) distinct.1
    · rw [if_neg same]
      rcases mem_cons.mp listed with rfl | later
      · exact absurd rfl same
      · exact ih later distinct.2

theorem reread_compact (some : ∀ pair ∈ list, pair.1 ≠ "" ∧ pair.2 ≠ "") (compact : ∀ pair ∈ list, Compact pair) :
    list.filterMap reread = list.map fun pair => ⟨pair.1,.new pair.1,pair.2⟩ := by
  induction list with
  | nil => rfl
  | cons pair rest ih =>
    obtain ⟨label,dir⟩ := some pair mem_cons_self
    obtain ⟨first,second⟩ := compact pair mem_cons_self
    have read : reread pair = Option.some ⟨pair.1,.new pair.1,pair.2⟩ := by
      rw [reread,(trim_eq_self_iff _ _).mpr first,(trim_eq_self_iff _ _).mpr second,String.ofList_toList,
        String.ofList_toList,if_neg (by simp [label,dir])]
    rw [filterMap_cons_some read,map_cons,ih (fun other listed => some other (mem_cons_of_mem pair listed))
        (fun other listed => compact other (mem_cons_of_mem pair listed))]

/-- A list of at least two kernels that passes the collision check and the encoder: every test runs on the kernel of
its name exactly if no label and no directory begins or ends with a space. -/
theorem names_resolve_iff (quote : String → String) (list : List (String × String)) (wire : String)
    (several : 2 ≤ list.length) (some : ∀ pair ∈ list, pair.1 ≠ "" ∧ pair.2 ≠ "")
    (distinct : detectLabelCollisions quote list = .ok ()) (encoded : encodeKernelList quote list = .ok wire) :
    NamesResolve quote list wire ↔ ∀ pair ∈ list, Compact pair := by
  have read := parse_wire quote list (by rintro rfl; exact absurd several (by simp)) encoded
  constructor
  · rintro ⟨same,-⟩ pair listed
    rw [read] at same
    obtain ⟨label,dir⟩ := some pair listed
    exact (reread_eq_iff label dir).mp (reread_all list same pair listed)
  · intro compact
    rw [reread_compact list some compact] at read
    rw [NamesResolve,read]
    refine ⟨by simp [Function.comp_def],fun name entry listed => ?_⟩
    have labels : ((list.map fun pair => (⟨pair.1,.new pair.1,pair.2⟩ : KernelEntry)).map fun other =>
        other.sanitized.text).Nodup := by
      rw [map_map]
      exact (detect_spec quote [] list distinct).1
    rw [stripKernelSuffix,if_neg (by rw [length_map]; omega),first_with_label listed labels]

def plainQuote (text : String) : String := text

/-- Two releases in two directories. -/
theorem releases_resolve :
    NamesResolve plainQuote [("6.14.2","/k/a"),("6.15-rc3","/k/b")] "6.14.2=/k/a;6.15-rc3=/k/b" := by
  refine (names_resolve_iff plainQuote [("6.14.2","/k/a"),("6.15-rc3","/k/b")] _ (by decide) (by decide) (by decide)
    (by decide)).mpr ?_
  simp only [Compact,← trim_eq_self_iff]
  decide

/-- A kernel in a directory whose name ends in a space is run from another directory. -/
theorem trailing_space_dropped :
    detectLabelCollisions plainQuote [("6.14.2","/k/a "),("6.15-rc3","/k/b")] = .ok () ∧
      encodeKernelList plainQuote [("6.14.2","/k/a "),("6.15-rc3","/k/b")] = .ok "6.14.2=/k/a ;6.15-rc3=/k/b" ∧
      ¬ NamesResolve plainQuote [("6.14.2","/k/a "),("6.15-rc3","/k/b")] "6.14.2=/k/a ;6.15-rc3=/k/b" := by
  refine ⟨by decide,by decide,fun resolves => absurd resolves.1 (by decide)⟩

end Ktstr.KernelNames
