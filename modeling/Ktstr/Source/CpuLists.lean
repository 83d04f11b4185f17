import Mathlib.Data.Finset.Sort
import Mathlib.Data.List.Destutter
import Ktstr.Library.Words
import Ktstr.Source.Patterns
import Ktstr.Source.VmTopology

/-! CPU lists as text: `cpuset_string` and the two parsers of `topology.rs`, and the parser of `cpu_util.rs`. -/
namespace Ktstr.Source.CpuLists
open Library.Text Library.Words Patterns
open VmTopology (u32Span)

def rangeText (start stop : Nat) : String :=
  if start = stop then toString start else toString start ++ "-" ++ toString stop

def ranges (start stop : Nat) : List Nat → List (Nat × Nat)
  | [] => [(start,stop)]
  | cpu::rest => if cpu = stop + 1 then ranges start cpu rest else (start,stop)::ranges cpu cpu rest

def cpusetString (cpus : Finset Nat) : String :=
  match cpus.sort with
  | [] => ""
  | first::rest => String.intercalate "," ((ranges first first rest).map fun range => rangeText range.1 range.2)

/-- The digits of an unsigned number below a span, one after another. -/
def readDigits (span : Nat) : Nat → List Char → Except String Nat
  | value,[] => .ok value
  | value,c::rest =>
    if !c.isDigit then .error "invalid digit found in string"
    else
      let next := 10 * value + (c.toNat - '0'.toNat)
      if next < span then readDigits span next rest else .error "number too large to fit in target type"

/-- `parse` of an unsigned integer, with a plus sign allowed. -/
def parseUnsigned (span : Nat) (text : String) : Except String Nat :=
  match text.toList with
  | [] => .error "cannot parse integer from empty string"
  | ['+'] => .error "invalid digit found in string"
  | '+'::digits => readDigits span 0 digits
  | digits => readDigits span 0 digits

def trimmed (text : String) : String := String.ofList (trim isWhitespace text.toList)

def parts (s : String) : List String := ((split ',' (trimmed s)).map trimmed).filter fun part => !part.isEmpty

/-- `lo..=hi`. -/
def inclusive (lo hi : Nat) : List Nat := List.range' lo (hi + 1 - lo)

def parsePart (part : String) : Except String (List Nat) :=
  match splitOnce '-' part with
  | some (lo,hi) => do
    let lo ← parseUnsigned wordSpan lo
    let hi ← parseUnsigned wordSpan hi
    return inclusive lo hi
  | none => do return [← parseUnsigned wordSpan part]

def parseCpuList (s : String) : Except String (List Nat) := do
  let cpus ← (parts s).mapM parsePart
  return cpus.flatten.insertionSort (· ≤ ·)

def lenientPart (part : String) : List Nat :=
  match splitOnce '-' part with
  | some (lo,hi) =>
    match parseUnsigned wordSpan lo,parseUnsigned wordSpan hi with
    | .ok lo,.ok hi => inclusive lo hi
    | .error _,_ => []
    | .ok _,.error _ => []
  | none =>
    match parseUnsigned wordSpan part with
    | .ok cpu => [cpu]
    | .error _ => []

def parseCpuListLenient (s : String) : List Nat := ((parts s).flatMap lenientPart).insertionSort (· ≤ ·)

def maxCpuRangeExpansion : Nat := 65536

def cappedToken (token : String) : Option (List Nat) :=
  match splitOnce '-' token with
  | some (lo,hi) => do
    let lo ← (parseUnsigned u32Span lo).toOption
    let hi ← (parseUnsigned u32Span hi).toOption
    if hi < lo then none
    else if hi - lo + 1 > maxCpuRangeExpansion then none
    else return inclusive lo hi
  | none => do return [← (parseUnsigned u32Span token).toOption]

/-- `cpu_util::parse_cpu_list`. -/
def parseCpuListCapped (s : String) : Option (List Nat) :=
  if (trimmed s).isEmpty then none
  else do
    let cpus ← (parts s).mapM cappedToken
    return (cpus.flatten.insertionSort (· ≤ ·)).destutter (· ≠ ·)

end Ktstr.Source.CpuLists
