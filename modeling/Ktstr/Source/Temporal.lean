import Ktstr.Source.Results

/-! Monotonicity patterns over a sampled series, from `assert/temporal.rs`. The parallel vectors of a
`SeriesField`, of one length by construction, are one list of samples. -/
namespace Ktstr.Source.Temporal
open Results

structure Sample (ε T : Type) where
  tag : String
  elapsedMs : Nat
  value : Except ε T

structure SeriesField (ε T : Type) where
  label : String
  samples : List (Sample ε T)

/-- `Display` of values and of projection errors. -/
structure Display (ε T : Type) where
  value : T → String
  error : ε → String

def pushDetail (verdict : AssertResult) (message : String) : AssertResult :=
  {verdict with passed := false,details := verdict.details ++ [⟨.temporal,message⟩]}

variable {ε T : Type} (display : Display ε T)

def pattern (strict : Bool) : String := if strict then "strictly_increasing" else "nondecreasing"

def skipEntry (sample : Sample ε T) (error : ε) : String :=
  String.join [sample.tag,"(+",toString sample.elapsedMs,"ms): ",display.error error]

def regression (label : String) (strict : Bool) (left right : Sample ε T) (before after : T) : String :=
  String.join [label," (",pattern strict,"): regression at sample ",right.tag," (+",toString right.elapsedMs,
    "ms): value ",display.value after," after prior value ",display.value before," at sample ",left.tag," (+",
    toString left.elapsedMs,"ms)"]

structure Walk where
  verdict : AssertResult
  skipped : List String

def walkLast (samples : List (Sample ε T)) (walk : Walk) : Walk :=
  match samples.getLast? with
  | none => walk
  | some last =>
    match last.value with
    | .ok _ => walk
    | .error error => {walk with skipped := walk.skipped ++ [skipEntry display last error]}

def skipNote (label : String) (strict : Bool) (skipped : List String) : String :=
  String.join [label," (",pattern strict,"): skipped ",toString skipped.length,
    " sample(s) with projection errors: ",", ".intercalate skipped]

def vacuousNote (label : String) (strict : Bool) (n : Nat) : String :=
  String.join [label," (",pattern strict,"): only ",toString n,
    " samples — pattern vacuously holds; ensure num_snapshots >= 2 for meaningful coverage"]

variable [LinearOrder T]

def inOrder (strict : Bool) (left right : T) : Bool := if strict then decide (right > left) else decide (right ≥ left)

def walkPair (label : String) (strict : Bool) (walk : Walk) (pair : Sample ε T × Sample ε T) : Walk :=
  match pair.1.value with
  | .error error => {walk with skipped := walk.skipped ++ [skipEntry display pair.1 error]}
  | .ok before =>
    match pair.2.value with
    -- Recorded when this sample comes up on the left.
    | .error _ => walk
    | .ok after =>
      if inOrder strict before after then walk
      else {walk with verdict := pushDetail walk.verdict (regression display label strict pair.1 pair.2 before after)}

variable (field : SeriesField ε T) (verdict : AssertResult)

def monotonicityCheck (strict : Bool) : AssertResult :=
  let samples := field.samples
  if samples.length < 2 then verdict.note (vacuousNote field.label strict samples.length)
  else
    let walk := (samples.zip samples.tail).foldl (walkPair display field.label strict) ⟨verdict,[]⟩
    let walk := walkLast display samples walk
    if walk.skipped.isEmpty then walk.verdict else walk.verdict.note (skipNote field.label strict walk.skipped)

def nondecreasing : AssertResult :=
  monotonicityCheck display field verdict false

def strictlyIncreasing : AssertResult :=
  monotonicityCheck display field verdict true

end Ktstr.Source.Temporal
