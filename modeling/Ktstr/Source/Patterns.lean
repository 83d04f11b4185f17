import Ktstr.Library.Text

/-! Name skeletons, from `ctprof_compare/pattern.rs`: digits and hex runs of a name are
folded into placeholders. -/
namespace Ktstr.Source.Patterns
open Library.Text

def tokenDigitPlaceholder : List Char := "\x7bN\x7d".toList

def tokenHexPlaceholder : List Char := "\x7bH\x7d".toList

def tokenInstancePlaceholder : List Char := "\x7bI\x7d".toList

def isAsciiAlpha (c : Char) : Bool := c.isAlpha

def isHexLower (c : Char) : Bool := c.isDigit || (decide ('a' ≤ c) && decide (c ≤ 'f'))

def classifyToken (t : List Char) : List Char :=
  let alphaPrefix := t.takeWhile isAsciiAlpha
  let trailing := t.dropWhile isAsciiAlpha
  let digits := t.takeWhile Char.isDigit
  let alphaSuffix := t.dropWhile Char.isDigit
  if t.isEmpty then []
  else if t.all Char.isDigit then tokenDigitPlaceholder
  else if t.all isHexLower && decide (2 ≤ t.length) && t.any Char.isDigit then tokenHexPlaceholder
  else if !alphaPrefix.isEmpty && !trailing.isEmpty && trailing.all Char.isDigit then
    alphaPrefix ++ tokenDigitPlaceholder
  else if !digits.isEmpty && !alphaSuffix.isEmpty && alphaSuffix.all isAsciiAlpha then
    tokenDigitPlaceholder ++ alphaSuffix
  else t

inductive Segment
  | token (text : List Char)
  | separator (text : List Char)

/-- The characters with the Unicode property `White_Space`. -/
def isWhitespace (c : Char) : Bool :=
  let n := c.toNat
  (decide (0x09 ≤ n) && decide (n ≤ 0x0d)) || n == 0x20 || n == 0x85 || n == 0xa0 || n == 0x1680 ||
    (decide (0x2000 ≤ n) && decide (n ≤ 0x200a)) || n == 0x2028 || n == 0x2029 || n == 0x202f || n == 0x205f ||
    n == 0x3000

def isTokenSeparator (c : Char) : Bool := ".-_/:@+[]".toList.contains c || isWhitespace c

def splitIntoSegments (s : List Char) : List Segment :=
  (s.splitBy fun a b => isTokenSeparator a == isTokenSeparator b).map fun run =>
    if run.head?.any isTokenSeparator then .separator run else .token run

def skeletonOf (segments : List Segment) : List Char :=
  segments.flatMap fun
    | .token t => classifyToken t
    | .separator s => s

def patternKey (name : String) : String := String.ofList (skeletonOf (splitIntoSegments name.toList))

theorem shorter_behind (mark c : Char) (rest behind : List Char)
    (dropped : rest.dropWhile (· != mark) = c::behind) : behind.length < rest.length := by
  have fits := (List.dropWhile_sublist (l := rest) (· != mark)).length_le
  rw [dropped] at fits
  exact fits

/-- The instance of a `template@instance.service` path segment is folded unless it has a
structure of its own. -/
def applySystemdTemplate (rest : List Char) : List Char :=
  match dropped : rest.dropWhile (· != '@') with
  | [] => rest
  | _::afterAt =>
    have : afterAt.length < rest.length := shorter_behind _ _ _ _ dropped
    have : (afterAt.dropWhile (· != '/')).length ≤ afterAt.length := (List.dropWhile_sublist _).length_le
    let before := rest.takeWhile (· != '@') ++ ['@']
    let segment := afterAt.takeWhile (· != '/')
    match stripSuffix (String.ofList segment) ".service" with
    | some label =>
      let kept :=
        if label.isEmpty || label.toList.any fun c => "._-".toList.contains c then segment
        else tokenInstancePlaceholder ++ ".service".toList
      before ++ kept ++ applySystemdTemplate (afterAt.dropWhile (· != '/'))
    | none => before ++ applySystemdTemplate afterAt
termination_by rest.length

def tokensOf (segments : List Segment) : List (List Char) :=
  segments.filterMap fun
    | .token t => some t
    | .separator _ => none

def cgroupSkeletonTokens (postL1 : List Char) : List Char × List (List Char) :=
  let segments := splitIntoSegments postL1
  (skeletonOf segments,tokensOf segments)

/-- The representative's segments, with the tokens that all members share kept as they are. -/
def tightenFrom (memberTokens : List (List (List Char))) : Nat → List Segment → List Char
  | _,[] => []
  | tokenPos,.token _::segments =>
    let first := (memberTokens.head?.bind (·[tokenPos]?)).getD []
    let classified := classifyToken first
    let allEqual := memberTokens.all fun tokens => tokens[tokenPos]? == some first
    (if allEqual && classified == first then first else classified) ++ tightenFrom memberTokens (tokenPos + 1) segments
  | tokenPos,.separator s::segments => s ++ tightenFrom memberTokens tokenPos segments

def tightenGroup (postL1Paths : List (List Char)) (memberTokens : List (List (List Char))) : List Char :=
  match postL1Paths with
  | [] => []
  | representative::_ => tightenFrom memberTokens 0 (splitIntoSegments representative)

structure Skeleton where
  path : String
  skeleton : List Char
  postL1 : List Char
  tokens : List (List Char)

def cgroupNormalizeSkeleton (path : String) : Skeleton :=
  let postL1 := applySystemdTemplate path.toList
  let (skeleton,tokens) := cgroupSkeletonTokens postL1
  ⟨path,skeleton,postL1,tokens⟩

/-- The label of a pattern group; `grex` builds a regular expression for the members. -/
def patternDisplayLabel (grex : List String → String) (key : String) (members : List String) : String :=
  if members.length < 2 then key
  else
    let regex := grex members
    if regex.utf8ByteSize ≤ key.utf8ByteSize then regex else key

end Ktstr.Source.Patterns
