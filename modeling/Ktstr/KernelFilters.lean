import Ktstr.KernelLabels
import Ktstr.Library.Fallible
import Ktstr.Source.KernelSpecs

/-! Whether a kernel that a spec resolves to passes the filter that declares the same spec. Versions and
ranges do; a cache key or a git source does only if its label keeps every word of the spec. -/
namespace Ktstr.KernelFilters
open List Library.Fallible Library.Text Source.Patterns Source.KernelList Source.KernelSpecs KernelLabels
  SanitizedKernelLabel

def Silent (text : List Char) : Prop := ∀ c ∈ text, c.isAlphanum = false

def KeyKept (key : String) : Prop :=
  match stripPrefix key "local-" with
  | some rest =>
    let discriminator := rest.toList.takeWhile (· != '-')
    Silent (rest.toList.drop (if discriminator = "unknown".toList then 7 else min 6 discriminator.length))
  | none => contains key "-tarball-" = false ∧ contains key "-git-" = false

structure UrlParts where
  scheme : List Char
  host : List Char
  stripped : Bool
  segments : List String

def cutScheme (url : String) : String × String := (splitOnceOn "://" url).getD ("",url)

def cutHost (afterScheme : String) : String × String := (splitOnce '/' afterScheme).getD ("",afterScheme)

def trimSlashes (path : String) : String := String.ofList (trim (· == '/') path.toList)

def urlParts (url : String) : UrlParts :=
  let path := trimSlashes (cutHost (cutScheme url).2).2
  let kept := (stripSuffix path ".git").getD path
  ⟨(cutScheme url).1.toList,(cutHost (cutScheme url).2).1.toList,(stripSuffix path ".git").isSome,
    (split '/' kept).filter fun segment => !segment.isEmpty⟩

/-- Nothing but the last two segments of the path has a letter or a digit in it; or there is no segment at all and
the one word of the URL is the one that stands in for a missing name. -/
def UrlKept (url : String) : Prop :=
  let parts := urlParts url
  parts.stripped = false ∧
    if parts.segments = [] then labelWords parts.scheme ++ labelWords parts.host = ["repo".toList]
    else Silent parts.scheme ∧ Silent parts.host ∧
      ∀ segment ∈ parts.segments.dropLast.dropLast, Silent segment.toList

/-- The label of what the spec resolves to keeps the words of the spec. -/
def KeepsWords (spec : String) : KernelId → Prop
  | .version _ | .path _ => True
  | .range _ _ => Trimmed isWhitespace spec.toList
  | .cacheKey key => KeyKept key
  | .git url _ => UrlKept url

def SelfNamed (spec : String) : Prop :=
  KeepsWords spec (KernelId.parse (String.ofList (trim isWhitespace spec.toList)))

/-! Versions. -/

theorem digit_inside {c : Char} (digit : c.isDigit) : c.isAlphanum := by
  simp [Char.isAlphanum,digit]

theorem digit_lower {c : Char} (digit : c.isDigit) : c.toLower = c := by
  unfold Char.toLower
  rw [dif_neg]
  intro upper
  have low : 65 ≤ c.val.toNat := upper.1
  have high : c.val.toNat ≤ 57 := (Bool.and_eq_true_iff.mp digit).2 |> of_decide_eq_true
  omega

def Numeric (part : String) : Prop := ∃ word, labelWords part.toList = [word] ∧ word.all Char.isDigit = true

theorem digits_word {digits : List Char} (some : digits ≠ []) (all : digits.all Char.isDigit) :
    labelWords digits = [digits] := by
  rw [all_eq_true] at all
  have lower := (map_congr_left fun c member => digit_lower (all c member)).trans (map_id _)
  rw [labelWords,lower,Library.Tokens.words_run _ fun c member => digit_inside (all c member)]
  simp [some]

variable (part : String)

variable {part}

theorem allDigits_iff : allDigits part ↔ part.toList ≠ [] ∧ part.toList.all Char.isDigit := by
  simp [allDigits]

theorem numeric_of_digits (digits : allDigits part) : Numeric part := by
  obtain ⟨some,all⟩ := allDigits_iff.mp digits
  exact ⟨part.toList,digits_word some all,all⟩

theorem numeric_of_parse {value : Nat} (parsed : parseU64 part = some value) : Numeric part := by
  have read (digits : List Char) (result : Option Nat)
      (ok : (if digits.isEmpty || !digits.all Char.isDigit then none else result) = some value) :
      labelWords digits = [digits] ∧ digits.all Char.isDigit := by
    split at ok
    · exact absurd ok (by simp)
    · next digital =>
      rw [Bool.or_eq_true,not_or,Bool.not_eq_true',Bool.not_eq_false,List.isEmpty_iff] at digital
      exact ⟨digits_word digital.1 digital.2,digital.2⟩
  unfold parseU64 at parsed
  dsimp only at parsed
  split at parsed
  · next rest letters =>
    obtain ⟨word,all⟩ := read rest _ parsed
    refine ⟨rest,?_,all⟩
    rw [letters,show '+'::rest = [] ++ '+'::rest from rfl,labelWords_gap (by decide),word]
    rfl
  · exact ⟨_,read _ _ parsed⟩

def numbers (text : List Char) : Nat := (labelWords text).countP fun word => word.all Char.isDigit

variable (s : String)

variable {s}

theorem splitRc_letters : s.toList = (splitRc s).1.toList ++
    match (splitRc s).2 with
    | some rc => '-'::("rc".toList ++ rc.toList)
    | none => [] := by
  unfold splitRc
  split
  · next version rc cut =>
    have whole := splitOnceOn_eq cut
    rw [whole]
    simp
  · simp

theorem candidate_word {rc : List Char} (all : rc.all Char.isDigit) :
    labelWords ("rc".toList ++ rc) = ["rc".toList ++ rc] := by
  rw [all_eq_true] at all
  have lower : rc.map Char.toLower = rc :=
    (map_congr_left fun c member => digit_lower (all c member)).trans (map_id _)
  have letters : ∀ c ∈ "rc".toList, c.isAlphanum := all_eq_true.mp (by decide)
  have word : ∀ c ∈ "rc".toList ++ rc, c.isAlphanum := by
    intro c member
    rcases mem_append.mp member with member | member
    · exact letters c member
    · exact digit_inside (all c member)
  rw [labelWords,map_append,lower,show "rc".toList.map Char.toLower = "rc".toList by decide,
    Library.Tokens.words_run _ word]
  rfl

theorem version_numbers (each : ∀ part ∈ split '.' (splitRc s).1, Numeric part)
    (candidate : ∀ rc, (splitRc s).2 = some rc → allDigits rc) :
    numbers s.toList = (split '.' (splitRc s).1).length := by
  have front : numbers (splitRc s).1.toList = (split '.' (splitRc s).1).length := by
    rw [numbers,labelWords_split '.' (by decide),countP_flatMap]
    have ones : ∀ part ∈ split '.' (splitRc s).1,
        (List.countP (fun word => word.all Char.isDigit) ∘ fun part : String => labelWords part.toList) part = 1 := by
      intro part listed
      obtain ⟨word,words,digits⟩ := each part listed
      simp [words,digits]
    have counted := map_congr_left ones
    rw [counted]
    simp [map_const']
  rw [splitRc_letters]
  cases rc : (splitRc s).2 with
  | none => simpa using front
  | some rc' =>
    have all := (allDigits_iff.mp (candidate rc' rc)).2
    rw [numbers,labelWords_gap (by decide),candidate_word all,countP_append]
    change numbers _ + 0 = _
    rw [front,Nat.add_zero]

theorem isVersionString_spec (version : isVersionString s) :
    (∀ part ∈ split '.' (splitRc s).1, allDigits part) ∧ 2 ≤ (split '.' (splitRc s).1).length ∧
      ∀ rc, (splitRc s).2 = some rc → allDigits rc := by
  unfold isVersionString at version
  dsimp only at version
  obtain ⟨rc,parts⟩ := Bool.and_eq_true_iff.mp version
  refine ⟨?_,?_,fun text present => ?_⟩
  · split at parts <;> simp_all
  · split at parts <;> simp_all
  · rw [present] at rc
    simpa using rc

theorem decompose_spec {key : VersionKey} (split' : decomposeVersionForCompare s = some key) :
    (∀ part ∈ split '.' (splitRc s).1, Numeric part) ∧ (split '.' (splitRc s).1).length ≤ 3 ∧
      ∀ rc, (splitRc s).2 = some rc → allDigits rc := by
  obtain ⟨number,candidate,parts⟩ := Option.bind_eq_some_iff.mp split'
  refine ⟨?_,?_,fun rc present => ?_⟩
  · unfold versionKey at parts
    split at parts
    · next first second cut =>
      rw [cut]
      obtain ⟨major,readMajor,parts⟩ := Option.bind_eq_some_iff.mp parts
      obtain ⟨minor,readMinor,-⟩ := Option.bind_eq_some_iff.mp parts
      simp [numeric_of_parse readMajor,numeric_of_parse readMinor]
    · next first second third cut =>
      rw [cut]
      obtain ⟨major,readMajor,parts⟩ := Option.bind_eq_some_iff.mp parts
      obtain ⟨minor,readMinor,parts⟩ := Option.bind_eq_some_iff.mp parts
      obtain ⟨patch,readPatch,-⟩ := Option.bind_eq_some_iff.mp parts
      simp [numeric_of_parse readMajor,numeric_of_parse readMinor,numeric_of_parse readPatch]
    · exact absurd parts (by simp)
  · unfold versionKey at parts
    split at parts
    · next cut => simp [cut]
    · next cut => simp [cut]
    · exact absurd parts (by simp)
  · rw [present,candidateNumber] at candidate
    split at candidate
    · next digits => exact digits
    · exact absurd candidate (by simp)

theorem version_solid (version : isVersionString s) : ∀ c ∈ s.toList, isWhitespace c = false := by
  obtain ⟨parts,-,candidate⟩ := isVersionString_spec version
  have solid (part : String) (digits : allDigits part) (c : Char) (member : c ∈ part.toList) :
      isWhitespace c = false := by
    have digit := all_eq_true.mp (allDigits_iff.mp digits).2 c member
    by_contra space
    rw [Bool.not_eq_false] at space
    exact absurd (digit_inside digit) (by rw [whitespace_outside space]; decide)
  have letters : ∀ c ∈ "rc".toList, isWhitespace c = false := by
    intro c member
    obtain rfl | rfl : c = 'r' ∨ c = 'c' := by simpa using member
    · decide
    · decide
  intro c member
  rw [splitRc_letters,mem_append] at member
  rcases member with front | back
  · rcases mem_split '.' _ c front with rfl | ⟨part,listed,held⟩
    · decide
    · exact solid part (parts part listed) c held
  · cases rc : (splitRc s).2 with
    | none =>
      rw [rc] at back
      exact absurd back (by simp)
    | some text =>
      rw [rc] at back
      rcases mem_cons.mp back with rfl | back
      · decide
      · rcases mem_append.mp back with letter | held
        · exact letters c letter
        · exact solid text (candidate text rc) c held

variable (s)

private def Reads (s : String) : KernelId → Prop
  | .git url gitRef => s.toList = "git+".toList ++ url.toList ++ '#'::gitRef.toList
  | .range start stop => ∃ mark, (mark = "..=" ∨ mark = "..") ∧ s.toList = start.toList ++ mark.toList ++ stop.toList ∧
      isVersionString start = true ∧ isVersionString stop = true
  | .version ver => ver = s ∧ isVersionString s = true
  | .cacheKey key => key = s
  | .path place => place = s

variable {s}

theorem parse_reads {id : KernelId} (parsed : KernelId.parse s = id) : Reads s id := by
  have ends (mark start stop : String) (keep : String × String → Option (String × String))
      (both : ∀ first last, keep (first,last) =
        if isVersionString first && isVersionString last then some (first,last) else none)
      (cut : (splitOnceOn mark s).bind keep = some (start,stop)) : s.toList = start.toList ++ mark.toList ++ stop.toList ∧ isVersionString start ∧
        isVersionString stop := by
    obtain ⟨⟨first,last⟩,found,kept⟩ := Option.bind_eq_some_iff.mp cut
    rw [both] at kept
    split at kept
    · next versions =>
      obtain ⟨rfl,rfl⟩ := Prod.mk.inj (Option.some.inj kept)
      exact ⟨splitOnceOn_eq found,Bool.and_eq_true_iff.mp versions⟩
    · exact absurd kept (by simp)
  unfold KernelId.parse at parsed
  dsimp only at parsed
  split at parsed
  · next url gitRef found =>
    subst parsed
    obtain ⟨rest,start,found⟩ := Option.bind_eq_some_iff.mp found
    obtain ⟨⟨url',gitRef'⟩,cut,kept⟩ := Option.bind_eq_some_iff.mp found
    split at kept
    · exact absurd kept (by simp)
    · obtain ⟨rfl,rfl⟩ := Prod.mk.inj (Option.some.inj kept)
      rw [Reads,stripPrefix_eq start,rsplitOnce_eq cut,append_assoc]
  · next start stop _ found =>
    subst parsed
    exact ⟨"..=",Or.inl rfl,ends _ _ _ _ (fun _ _ => rfl) found⟩
  · next start stop _ _ found =>
    subst parsed
    exact ⟨"..",Or.inr rfl,ends _ _ _ _ (fun _ _ => rfl) found⟩
  · split at parsed
    · subst parsed
      rfl
    · split at parsed
      · next version =>
        subst parsed
        exact ⟨rfl,version⟩
      · subst parsed
        rfl

theorem version_few {key : VersionKey} (found : decomposeVersionForCompare s = some key) :
    numbers s.toList ≤ 3 := by
  obtain ⟨each,few,candidate⟩ := decompose_spec found
  rw [version_numbers each candidate]
  exact few

theorem version_many (version : isVersionString s) : 2 ≤ numbers s.toList := by
  obtain ⟨each,many,candidate⟩ := isVersionString_spec version
  rw [version_numbers (fun part listed => numeric_of_digits (each part listed)) candidate]
  exact many

theorem range_many {start stop : String} (reads : Reads s (.range start stop)) : 4 ≤ numbers s.toList := by
  obtain ⟨mark,marks,letters,first,last⟩ := reads
  have apart : labelWords s.toList = labelWords start.toList ++ labelWords stop.toList := by
    rw [letters]
    rcases marks with rfl | rfl
    · have whole : start.toList ++ "..=".toList ++ stop.toList = start.toList ++ '.'::(".=".toList ++ stop.toList ++ []) := by
        simp
      rw [whole,labelWords_gap (by decide),labelWords_pad _ _ _ (by simp) (by simp)]
    · have whole : start.toList ++ "..".toList ++ stop.toList = start.toList ++ '.'::(".".toList ++ stop.toList ++ []) := by
        simp
      rw [whole,labelWords_gap (by decide),labelWords_pad _ _ _ (by simp) (by simp)]
  have low := version_many first
  have high := version_many last
  rw [numbers] at low high ⊢
  rw [apart,countP_append]
  omega

/-! Cache keys. -/

variable (text : List Char)

theorem words_take_iff (k : Nat) : labelWords (text.take k) = labelWords text ↔ Silent (text.drop k) := by
  constructor
  · intro same
    have counts := congrArg (fun words => (List.flatten words).length) same
    simp only [labelWords_length] at counts
    rw [← take_append_drop k text,countP_append,take_append_drop] at counts
    have none : (text.drop k).countP Char.isAlphanum = 0 := by omega
    rw [countP_eq_zero] at none
    exact fun c member => by simpa using none c member
  · intro silent
    have whole := labelWords_pad [] (text.take k) (text.drop k) (by simp) silent
    rw [← whole,nil_append,take_append_drop]

theorem words_tagged {tag : List Char} {stop : Nat} (letter : ∃ c ∈ tag, c.isAlphanum)
    (found : find tag text = some stop) : labelWords (text.take stop) ≠ labelWords text := by
  rw [Ne,words_take_iff]
  intro silent
  obtain ⟨c,member,inside⟩ := letter
  have whole := find_eq tag text stop found
  have behind : text.drop stop = tag ++ text.drop (stop + tag.length) := by
    have split' : text.take stop ++ text.drop stop = text.take stop ++ (tag ++ text.drop (stop + tag.length)) := by
      rw [take_append_drop,← append_assoc,← whole]
    exact append_cancel_left split'
  rw [behind] at silent
  rw [silent c (mem_append_left _ member)] at inside
  exact absurd inside (by decide)

theorem local_words {rest : List Char} {mark : Char} (outside : mark.isAlphanum = false) :
    labelWords ("local".toList ++ mark::rest) = ["local".toList] ++ labelWords rest := by
  rw [labelWords_gap outside]
  rfl

theorem key_kept_iff (key : String) :
    labelWords (cacheKeyToVersionLabel key).toList = labelWords key.toList ↔ KeyKept key := by
  unfold cacheKeyToVersionLabel KeyKept
  by_cases bare : key = "local"
  · subst bare
    rw [if_pos rfl,show stripPrefix "local" "local-" = none by decide]
    exact iff_of_true rfl (by decide)
  · rw [if_neg bare]
    cases start : stripPrefix key "local-" with
    | some rest =>
      have letters : key.toList = "local".toList ++ '-'::rest.toList := by
        rw [stripPrefix_eq start]
        rfl
      have kept : rest.toList.takeWhile (· != '-') =
          rest.toList.take (rest.toList.takeWhile (· != '-')).length :=
        prefix_iff_eq_take.mp (List.takeWhile_prefix _)
      dsimp only
      rw [← words_take_iff,letters,local_words (by decide)]
      generalize rest.toList.takeWhile (· != '-') = discriminator at kept
      by_cases empty : discriminator = []
      · subst empty
        change "local".toList::[] = "local".toList::labelWords rest.toList ↔ [] = labelWords rest.toList
        rw [List.cons.injEq,eq_self_iff_true,true_and]
      · have suffix : (if discriminator = "unknown".toList then discriminator else discriminator.take 6) =
            rest.toList.take (if discriminator = "unknown".toList then 7 else min 6 discriminator.length) := by
          split
          · next unknown =>
            rw [unknown] at kept
            rw [unknown]
            exact kept
          · rw [← take_take,← kept]
        have label : ("local_" ++ String.ofList (if discriminator = "unknown".toList then discriminator
            else discriminator.take 6)).toList = "local".toList ++ '_'::rest.toList.take
            (if discriminator = "unknown".toList then 7 else min 6 discriminator.length) := by
          rw [suffix,String.toList_append]
          generalize rest.toList.take _ = shown
          simp
        rw [if_neg (by simpa using empty),label,local_words (by decide),append_cancel_left_eq]
    | none =>
      rw [Library.Text.contains,Library.Text.contains,← find_isSome,← find_isSome]
      cases tarball : find "-tarball-".toList key.toList with
      | some stop =>
        simp only [String.toList_ofList,Option.isSome_some,reduceCtorEq,false_and,iff_false]
        exact words_tagged _ (any_eq_true.mp (by decide)) tarball
      | none =>
        cases git : find "-git-".toList key.toList with
        | some stop =>
          simp only [String.toList_ofList,Option.isSome_some,reduceCtorEq,and_false,iff_false]
          exact words_tagged _ (any_eq_true.mp (by decide)) git
        | none => simp

/-! Git sources. -/

theorem words_scheme (scheme rest : List Char) :
    labelWords (scheme ++ "://".toList ++ rest) = labelWords scheme ++ labelWords rest := by
  have marks : scheme ++ "://".toList ++ rest = scheme ++ ':'::("//".toList ++ rest ++ []) := by simp
  rw [marks,labelWords_gap (by decide),labelWords_pad _ _ _ (by simp) (by simp)]

theorem scheme_words (url : String) :
    labelWords url.toList = labelWords (cutScheme url).1.toList ++ labelWords (cutScheme url).2.toList := by
  unfold cutScheme
  cases cut : splitOnceOn "://" url with
  | none => rfl
  | some pair => rw [splitOnceOn_eq cut,words_scheme,Option.getD_some]

theorem host_words (afterScheme : String) :
    labelWords afterScheme.toList = labelWords (cutHost afterScheme).1.toList ++
      labelWords (cutHost afterScheme).2.toList := by
  unfold cutHost
  cases cut : splitOnce '/' afterScheme with
  | none => rfl
  | some pair =>
    have letters : afterScheme.toList = pair.1.toList ++ '/'::pair.2.toList := by
      rw [splitOnce_eq cut]
      simp
    rw [letters,labelWords_gap (by decide),Option.getD_some]

theorem slashes_words (path : String) : labelWords (trimSlashes path).toList = labelWords path.toList := by
  obtain ⟨front,back,whole,left,right⟩ := trim_split (· == '/') path.toList
  have slash (c : Char) (same : (c == '/')) : c.isAlphanum = false := by
    rw [beq_iff_eq.mp same]
    decide
  rw [trimSlashes,String.toList_ofList]
  generalize trim (· == '/') path.toList = kept at whole
  rw [whole,labelWords_pad _ _ _ (fun c member => slash c (left c member)) (fun c member => slash c (right c member))]

def ending : Bool → List (List Char)
  | true => ["git".toList]
  | false => []

theorem stripped_words (path : String) :
    labelWords path.toList = labelWords ((stripSuffix path ".git").getD path).toList ++
      ending (stripSuffix path ".git").isSome := by
  cases cut : stripSuffix path ".git" with
  | none => simp [ending]
  | some kept =>
    have letters : path.toList = kept.toList ++ '.'::"git".toList := by
      unfold stripSuffix at cut
      split at cut
      · next ends =>
        obtain rfl := Option.some.inj cut
        rw [String.toList_ofList]
        exact (suffix_iff_eq_append.mp ends).symm
      · exact absurd cut (by simp)
    rw [letters,labelWords_gap (by decide)]
    rfl

theorem segments_words (kept : String) :
    labelWords kept.toList = ((split '/' kept).filter fun segment => !segment.isEmpty).flatMap fun segment =>
      labelWords segment.toList := by
  rw [labelWords_split '/' (by decide)]
  induction split '/' kept with
  | nil => rfl
  | cons segment rest ih =>
    rw [flatMap_cons,ih]
    by_cases empty : segment = ""
    · subst empty
      rfl
    · rw [filter_cons_of_pos (by simpa [String.isEmpty_iff] using empty),flatMap_cons]

theorem url_words (url : String) :
    labelWords url.toList = labelWords (urlParts url).scheme ++ (labelWords (urlParts url).host ++
      ((urlParts url).segments.flatMap (fun segment => labelWords segment.toList) ++
        ending (urlParts url).stripped)) := by
  rw [scheme_words url,host_words (cutScheme url).2,← slashes_words (cutHost (cutScheme url).2).2,
    stripped_words (trimSlashes _),segments_words ((stripSuffix _ _).getD _)]
  simp only [urlParts]

theorem git_label (url gitRef : String) :
    gitKernelLabel url gitRef = segmentsLabel (urlParts url).segments gitRef := by
  have after : ((splitOnceOn "://" url).map Prod.snd).getD url = (cutScheme url).2 := by
    unfold cutScheme
    cases splitOnceOn "://" url <;> rfl
  have path : ((splitOnce '/' (cutScheme url).2).map Prod.snd).getD (cutScheme url).2 = (cutHost (cutScheme url).2).2 := by
    unfold cutHost
    cases splitOnce '/' (cutScheme url).2 <;> rfl
  unfold gitKernelLabel urlParts trimSlashes
  dsimp only
  rw [after,path]

theorem git_words : labelWords ("git".toList ++ '_'::text) = ["git".toList] ++ labelWords text := by
  rfl

theorem label_words (segments : List String) (gitRef : String) :
    labelWords (segmentsLabel segments gitRef).toList = ["git".toList] ++
      ((if segments = [] then ["repo".toList]
        else (segments.drop (segments.length - 2)).flatMap fun segment => labelWords segment.toList) ++
          labelWords gitRef.toList) := by
  unfold segmentsLabel
  split
  · next none =>
    have letters : ("git_repo_" ++ gitRef).toList = "git".toList ++ '_'::("repo".toList ++ '_'::gitRef.toList) := by simp
    rw [letters,if_pos (by simpa using none)]
    rfl
  · next repo one =>
    have letters : ("git_" ++ repo ++ "_" ++ gitRef).toList = "git".toList ++ '_'::(repo.toList ++ '_'::gitRef.toList) := by
      simp
    rw [reverse_eq_iff] at one
    subst one
    rw [letters,git_words,labelWords_gap (by decide)]
    simp
  · next repo owner earlier several =>
    have letters : ("git_" ++ owner ++ "_" ++ repo ++ "_" ++ gitRef).toList =
        "git".toList ++ '_'::(owner.toList ++ '_'::(repo.toList ++ '_'::gitRef.toList)) := by
      simp
    rw [reverse_eq_iff] at several
    subst several
    rw [letters,git_words,labelWords_gap (by decide),labelWords_gap (by decide)]
    simp

theorem extra_words {α : Type} (scheme host earlier kept ending : List α) :
    kept = scheme ++ (host ++ (earlier ++ kept ++ ending)) ↔ ending = [] ∧ scheme = [] ∧ host = [] ∧ earlier = [] := by
  constructor
  · intro same
    have lengths := congrArg List.length same
    simp only [length_append] at lengths
    refine ⟨?_,?_,?_,?_⟩ <;> exact eq_nil_of_length_eq_zero (by omega)
  · rintro ⟨rfl,rfl,rfl,rfl⟩
    simp

variable (spec : String)

theorem url_kept_iff (url gitRef spec : String)
    (letters : spec.toList = "git+".toList ++ url.toList ++ '#'::gitRef.toList) :
    labelWords (gitKernelLabel url gitRef).toList = labelWords spec.toList ↔ UrlKept url := by
  have words : labelWords spec.toList = ["git".toList] ++ (labelWords url.toList ++ labelWords gitRef.toList) := by
    have marks : spec.toList = "git".toList ++ '+'::(url.toList ++ '#'::gitRef.toList) := by
      rw [letters]
      simp
    rw [marks,labelWords_gap (by decide),labelWords_gap (by decide)]
    rfl
  rw [words,url_words url,git_label,label_words,append_cancel_left_eq,append_cancel_right_eq,UrlKept]
  generalize urlParts url = parts
  obtain ⟨scheme,host,stripped,segments⟩ := parts
  by_cases none : segments = []
  · subst none
    cases stripped with
    | false => simp [ending,eq_comm]
    | true =>
      have other : ["repo".toList] ≠ labelWords scheme ++ labelWords host ++ ["git".toList] := by
        intro same
        have last := congrArg List.getLast? same
        rw [getLast?_concat] at last
        exact absurd last (by decide)
      simpa [ending] using other
  · have cut : segments = segments.dropLast.dropLast ++ segments.drop (segments.length - 2) := by
      rw [dropLast_eq_take,dropLast_eq_take,take_take,length_take,
        show min (min (segments.length - 1) segments.length - 1) (segments.length - 1) = segments.length - 2 by omega,
        take_append_drop]
    have earlier : (segments.dropLast.dropLast.flatMap fun segment => labelWords segment.toList) = [] ↔
        ∀ segment ∈ segments.dropLast.dropLast, Silent segment.toList := by
      simp only [flatMap_eq_nil_iff,labelWords_eq_nil_iff,Silent]
    rw [if_neg none,if_neg none]
    conv_lhs => rhs; rw [cut]
    rw [flatMap_append,extra_words,earlier,labelWords_eq_nil_iff,labelWords_eq_nil_iff]
    cases stripped <;> simp [ending,Silent]

/-! The filter. -/

def entryOf (pair : String × String) : KernelEntry := ⟨pair.1,.new pair.1,pair.2⟩

theorem accepts_one (entry : KernelEntry) :
    schedKernelFilterAccepts [spec] entry = entryMatchesSpec entry spec := by
  simp [schedKernelFilterAccepts]

theorem trimmed_words :
    labelWords (String.ofList (trim isWhitespace spec.toList)).toList = labelWords spec.toList := by
  obtain ⟨front,back,whole,left,right⟩ := trim_split isWhitespace spec.toList
  rw [String.toList_ofList]
  generalize trim isWhitespace spec.toList = kept at whole
  rw [whole,labelWords_pad _ _ _ (fun c member => whitespace_outside (left c member))
    (fun c member => whitespace_outside (right c member))]

variable {spec}

theorem solid_spec
    (kind : (∃ ver, KernelId.parse spec = .version ver) ∨ ∃ start stop, KernelId.parse spec = .range start stop) :
    Trimmed isWhitespace spec.toList := by
  rcases kind with ⟨ver,parsed⟩ | ⟨start,stop,parsed⟩
  · obtain ⟨rfl,version⟩ := parse_reads parsed
    exact trimmed_of_solid _ _ (version_solid version)
  · obtain ⟨mark,marks,letters,first,last⟩ := parse_reads parsed
    refine trimmed_of_solid _ _ fun c member => ?_
    rw [letters,mem_append,mem_append] at member
    rcases member with (member | member) | member
    · exact version_solid first c member
    · rcases marks with rfl | rfl
      · obtain rfl | rfl : c = '.' ∨ c = '=' := by simpa using member
        · decide
        · decide
      · obtain rfl : c = '.' := by simpa using member
        decide
    · exact version_solid last c member

theorem accepts_words {pair : String × String} (kind : ∀ start stop, KernelId.parse spec ≠ .range start stop)
    (same : labelWords pair.1.toList = labelWords spec.toList) : entryMatchesSpec (entryOf pair) spec := by
  have label := sanitize_inj.mpr same
  unfold entryMatchesSpec
  split
  · next ver parsed =>
    obtain ⟨rfl,-⟩ := parse_reads parsed
    simp [entryOf,new,label]
  · next start stop parsed => exact absurd parsed (kind start stop)
  all_goals simp [entryOf,new,label]

theorem accepts_iff_words {pair : String × String} (version : ∀ ver, KernelId.parse spec ≠ .version ver)
    (range : ∀ start stop, KernelId.parse spec ≠ .range start stop) :
    entryMatchesSpec (entryOf pair) spec ↔ labelWords pair.1.toList = labelWords spec.toList := by
  rw [← sanitize_inj]
  unfold entryMatchesSpec
  split
  · next ver parsed => exact absurd parsed (version ver)
  · next start stop parsed => exact absurd parsed (range start stop)
  all_goals simp [entryOf,new]

def Yields (text : String) (entries : List (String × String)) : KernelId → Prop
  | .version ver => ∃ dir, entries = [(ver,dir)]
  | .cacheKey key => entries = [] ∧ text = "" ∨ ∃ dir, entries = [(cacheKeyToVersionLabel key,dir)]
  | .git url gitRef => ∃ dir, entries = [(gitKernelLabel url gitRef,dir)]
  | .range start stop => ∃ first last, decomposeVersionForCompare start = some first ∧
      decomposeVersionForCompare stop = some last ∧ entries ≠ [] ∧
      ∀ pair ∈ entries, ∃ key, decomposeVersionForCompare pair.1 = some key ∧ first ≤ key ∧ key ≤ last
  | .path _ => True

theorem mem_range {releases : List Release} {first last : VersionKey} {ver : String}
    (listed : ver ∈ filterAndSortRange releases first last) :
    ∃ key, decomposeVersionForCompare ver = some key ∧ first ≤ key ∧ key ≤ last := by
  obtain ⟨⟨ver',key⟩,member,rfl⟩ := mem_map.mp listed
  rw [mem_mergeSort] at member
  obtain ⟨release,-,kept⟩ := mem_filterMap.mp member
  split at kept
  · exact absurd kept (by simp)
  · cases found : decomposeVersionForCompare release.version with
    | none =>
      rw [found] at kept
      exact absurd kept (by simp)
    | some key' =>
      rw [found] at kept
      dsimp only at kept
      split at kept
      · exact absurd kept (by simp)
      · next bounds =>
        obtain ⟨rfl,rfl⟩ := Prod.mk.inj (Option.some.inj kept)
        rw [not_or,not_lt,not_lt] at bounds
        exact ⟨key',found,bounds⟩

theorem range_yields {resolver : Resolver} {start stop : String} {versions : List String}
    {entries : List (String × String)} {text : String} (expanded : expandKernelRange resolver start stop = .ok versions)
    (mapped : versions.mapM (resolveVersion resolver) = .ok entries) : Yields text entries (.range start stop) := by
  obtain ⟨lengths,each⟩ := mapM_ok _ _ _ mapped
  unfold expandKernelRange at expanded
  split at expanded
  · exact absurd expanded (by simp)
  · exact absurd expanded (by simp)
  · next first last low high =>
    obtain ⟨releases,-,kept⟩ := bind_ok _ _ _ expanded
    dsimp only at kept
    split at kept
    · exact absurd kept (by simp)
    · next some =>
      obtain rfl := Except.ok.inj kept
      refine ⟨first,last,low,high,?_,fun pair listed => ?_⟩
      · rintro rfl
        exact some (List.isEmpty_iff.mpr (eq_nil_of_length_eq_zero lengths.symm))
      · obtain ⟨ver,member,made⟩ := each pair listed
        unfold resolveVersion at made
        split at made
        · next pair' resolved =>
          obtain rfl := Except.ok.inj made
          obtain ⟨dir,-,rfl⟩ := map_ok resolved
          exact mem_range member
        · exact absurd made (by simp)

theorem resolve_yields {resolver : Resolver} {spec text : String} {entries : List (String × String)}
    {id : KernelId} (trimmed : String.ofList (trim isWhitespace spec.toList) = text) (parsed : KernelId.parse text = id)
    (resolved : resolveSpec resolver spec = .ok entries) : Yields text entries id := by
  unfold resolveSpec at resolved
  dsimp only at resolved
  rw [trimmed,parsed] at resolved
  split at resolved
  · next empty =>
    obtain rfl := Except.ok.inj resolved
    obtain rfl := String.isEmpty_iff.mp empty
    obtain rfl : KernelId.cacheKey "" = id := parsed
    exact Or.inl ⟨rfl,rfl⟩
  · cases id with
    | path place => trivial
    | version ver =>
      obtain ⟨pair,made,rfl⟩ := map_ok resolved
      obtain ⟨dir,-,rfl⟩ := map_ok made
      exact ⟨dir,rfl⟩
    | cacheKey key =>
      obtain ⟨pair,made,rfl⟩ := map_ok resolved
      obtain ⟨dir,-,rfl⟩ := map_ok made
      exact Or.inr ⟨dir,rfl⟩
    | git url gitRef =>
      obtain ⟨pair,made,rfl⟩ := map_ok resolved
      rw [resolveOne] at made
      split at made
      · next dir _ =>
        obtain rfl := Except.ok.inj made
        exact ⟨dir,rfl⟩
      · exact absurd made (by simp)
    | range start stop =>
      split at resolved
      · exact absurd resolved (by simp)
      · next kind same =>
        obtain ⟨rfl,rfl⟩ := KernelId.range.inj same
        obtain ⟨versions,expanded,mapped⟩ := bind_ok _ _ _ resolved
        exact range_yields expanded mapped
      · next other => exact absurd rfl (other start stop)

variable (spec)

/-- A spec other than a path: every kernel it resolves to passes the filter that declares the spec, exactly if the
label keeps the words of the spec. -/
theorem spec_accepts_itself_iff (resolver : Resolver) (spec : String) (entries : List (String × String))
    (named : ∀ place, KernelId.parse (String.ofList (trim isWhitespace spec.toList)) ≠ .path place)
    (resolved : resolveSpec resolver spec = .ok entries) :
    (∀ pair ∈ entries, schedKernelFilterAccepts [spec] (entryOf pair) = true) ↔ SelfNamed spec := by
  have words := trimmed_words spec
  have unchanged (kind : Trimmed isWhitespace spec.toList) : String.ofList (trim isWhitespace spec.toList) = spec := by
    rw [(trim_eq_self_iff _ _).mpr kind,String.ofList_toList]
  simp only [accepts_one]
  unfold SelfNamed
  generalize trims : String.ofList (trim isWhitespace spec.toList) = text at words unchanged named
  -- The spec itself is read as the trimmed text is, or by words alone.
  have byWords (pair : String × String) (version : ∀ ver, KernelId.parse text ≠ .version ver)
      (range : ∀ start stop, KernelId.parse text ≠ .range start stop) :
      entryMatchesSpec (entryOf pair) spec ↔ labelWords pair.1.toList = labelWords text.toList := by
    rw [words]
    apply accepts_iff_words
    · intro ver parsed
      rw [← unchanged (solid_spec (Or.inl ⟨ver,parsed⟩))] at parsed
      exact version ver parsed
    · intro start stop parsed
      rw [← unchanged (solid_spec (Or.inr ⟨start,stop,parsed⟩))] at parsed
      exact range start stop parsed
  cases parsed : KernelId.parse text with
  | path place => exact absurd parsed (named place)
  | version ver =>
    obtain ⟨rfl,-⟩ := parse_reads parsed
    obtain ⟨dir,rfl⟩ := resolve_yields trims parsed resolved
    rw [KeepsWords,iff_true,forall_mem_singleton]
    have other (start stop : String) : KernelId.parse spec ≠ .range start stop := by
      intro kind
      rw [← unchanged (solid_spec (Or.inr ⟨start,stop,kind⟩)),parsed] at kind
      exact absurd kind (by simp)
    exact accepts_words other words
  | range start stop =>
    obtain ⟨first,last,low,high,some,each⟩ := resolve_yields trims parsed resolved
    constructor
    · intro accepted
      by_contra loose
      obtain ⟨pair,listed⟩ := exists_mem_of_ne_nil entries some
      have same := (accepts_iff_words (fun ver kind => loose (solid_spec (Or.inl ⟨ver,kind⟩)))
        (fun start stop kind => loose (solid_spec (Or.inr ⟨start,stop,kind⟩)))).mp (accepted pair listed)
      obtain ⟨key,found,-,-⟩ := each pair listed
      have few := version_few found
      have many := range_many (parse_reads parsed)
      rw [numbers,same,← words] at few
      rw [numbers] at many
      omega
    · intro tight pair listed
      obtain ⟨key,found,lower,upper⟩ := each pair listed
      rw [unchanged tight] at parsed
      rw [entryMatchesSpec,parsed]
      simp [entryOf,found,low,high,lower,upper]
  | cacheKey key =>
    obtain rfl := parse_reads parsed
    rcases resolve_yields trims parsed resolved with ⟨rfl,rfl⟩ | ⟨dir,rfl⟩
    · rw [KeepsWords]
      exact iff_of_true (fun pair member => absurd member (by simp)) ((key_kept_iff "").mp rfl)
    · rw [forall_mem_singleton,byWords _ (by simp [parsed]) (by simp [parsed]),key_kept_iff,KeepsWords]
  | git url gitRef =>
    have letters := parse_reads parsed
    obtain ⟨dir,rfl⟩ := resolve_yields trims parsed resolved
    rw [forall_mem_singleton,byWords _ (by simp [parsed]) (by simp [parsed]),url_kept_iff url gitRef text letters,
      KeepsWords]

def allCached : Resolver where
  cachedReleases := .ok [⟨"stable","6.14.2"⟩]
  cached _ := .ok "/cache"
  gitKernel _ _ := .ok "/cache"
  pathKernel place := .ok ("path",place)

theorem mirror_read : KernelId.parse (String.ofList (trim isWhitespace "git+/srv/linux#main".toList)) =
    .git "/srv/linux" "main" := by
  decide +kernel

/-- A mirror on the host, all of whose path is in the label. -/
theorem local_mirror_accepted :
    schedKernelFilterAccepts ["git+/srv/linux#main"] (entryOf ("git_srv_linux_main","/cache")) = true := by
  refine (spec_accepts_itself_iff allCached "git+/srv/linux#main" [("git_srv_linux_main","/cache")] ?_
    (by decide +kernel)).mpr ?_ _ (by simp)
  · rw [mirror_read]
    simp
  · rw [SelfNamed,mirror_read]
    refine (url_kept_iff "/srv/linux" "main" "git+/srv/linux#main" (by decide)).mp ?_
    decide +kernel

/-- The kernels that a git source on a server and a cached release resolve to are not accepted by the same specs. -/
theorem remote_source_rejected :
    (resolveSpec allCached "git+https://h/tj/scx#dev" = .ok [("git_tj_scx_dev","/cache")] ∧
      schedKernelFilterAccepts ["git+https://h/tj/scx#dev"]
        (entryOf ("git_tj_scx_dev","/cache")) = false) ∧
    resolveSpec allCached "6.14-tarball-x86_64-kc1" = .ok [("6.14","/cache")] ∧
      schedKernelFilterAccepts ["6.14-tarball-x86_64-kc1"] (entryOf ("6.14","/cache")) = false := by
  decide +kernel

end Ktstr.KernelFilters
