import Mathlib.Algebra.Order.Ring.Int
import Mathlib.Data.Prod.Lex
import Ktstr.Source.KernelList

/-! Kernel specs: what `--kernel` reads and resolves (`kernel_path.rs`, `cli/resolve.rs`, and of
`bin/cargo_ktstr/kernel` the `mod.rs` and `wire_format.rs`), and the filter of a scheduler's declared
kernels (`test_support/dispatch.rs`). -/
namespace Ktstr.Source.KernelSpecs
open Library.Text Patterns KernelList

inductive KernelId
  | path (place : String)
  | version (ver : String)
  | cacheKey (key : String)
  | range (start stop : String)
  | git (url gitRef : String)
deriving DecidableEq

def allDigits (part : String) : Bool := !part.isEmpty && part.toList.all Char.isDigit

variable (s : String)

def splitRc : String × Option String :=
  match splitOnceOn "-rc" s with
  | some (version,rc) => (version,some rc)
  | none => (s,none)

def isVersionString : Bool :=
  let (versionPart,rcPart) := splitRc s
  rcPart.all allDigits &&
    match split '.' versionPart with
    | [major,minor] => allDigits major && allDigits minor
    | [major,minor,patch] => allDigits major && allDigits minor && allDigits patch
    | _ => false

/-- A spec is kept as it is written; a path is left to the file system. -/
def KernelId.parse : KernelId :=
  let git := do
    let rest ← stripPrefix s "git+"
    let (url,gitRef) ← rsplitOnce '#' rest
    if url.isEmpty || gitRef.isEmpty then none else some (url,gitRef)
  let ends (mark : String) := do
    let (start,stop) ← splitOnceOn mark s
    if isVersionString start && isVersionString stop then some (start,stop) else none
  match git,ends "..=",ends ".." with
  | some (url,gitRef),_,_ => .git url gitRef
  | none,some (start,stop),_ => .range start stop
  | none,none,some (start,stop) => .range start stop
  | none,none,none =>
    if s.toList.contains '/' || s.toList.head? == some '.' || s.toList.head? == some '~' then .path s
    else if isVersionString s then .version s
    else .cacheKey s

/-- An unsigned 64-bit number as the standard library reads it, with a plus sign allowed. -/
def parseU64 (text : String) : Option Nat :=
  let digits := match text.toList with
    | '+'::rest => rest
    | all => all
  if digits.isEmpty || !digits.all Char.isDigit then none
  else
    let value := digits.foldl (fun value c => value * 10 + (c.toNat - '0'.toNat)) 0
    if value < 2 ^ 64 then some value else none

abbrev VersionKey := ℕ ×ₗ ℕ ×ₗ ℕ ×ₗ ℕ

def candidateNumber : Option String → Option Nat
  | some rc => if allDigits rc then parseU64 rc else none
  | none => some (2 ^ 64 - 1)

def versionKey (rc : Nat) : List String → Option VersionKey
  | [major,minor] => do
    let major ← parseU64 major
    let minor ← parseU64 minor
    some (toLex (major,toLex (minor,toLex (0,rc))))
  | [major,minor,patch] => do
    let major ← parseU64 major
    let minor ← parseU64 minor
    let patch ← parseU64 patch
    some (toLex (major,toLex (minor,toLex (patch,rc))))
  | _ => none

def decomposeVersionForCompare : Option VersionKey := do
  let rc ← candidateNumber (splitRc s).2
  versionKey rc (split '.' (splitRc s).1)

def endpointError (which endpoint : String) : String :=
  "kernel range " ++ which ++ " \x60" ++ endpoint ++ "\x60 is not a parseable version " ++
    "(version components must fit u64). Direct callers that construct \x60KernelId::Range\x60 outside " ++
    "\x60KernelId::parse\x60 are responsible for endpoint validity; the parser admits a strict subset."

def KernelId.validate : KernelId → Except String Unit
  | .range start stop =>
    match decomposeVersionForCompare start,decomposeVersionForCompare stop with
    | none,_ => .error (endpointError "start" start)
    | some _,none => .error (endpointError "end" stop)
    | some first,some last =>
      if first > last then
        .error ("inverted kernel range \x60" ++ start ++ ".." ++ stop ++ "\x60: start version is greater than end " ++
          "version. Swap the endpoints (\x60" ++ stop ++ ".." ++ start ++ "\x60) or omit the range to pass a single " ++
          "version.")
      else .ok ()
  | _ => .ok ()

def KernelId.display : KernelId → String
  | .path place => place
  | .version ver => ver
  | .cacheKey key => key
  | .range start stop => start ++ ".." ++ stop
  | .git url gitRef => "git+" ++ url ++ "#" ++ gitRef

structure Release where
  moniker : String
  version : String

def filterAndSortRange (releases : List Release) (startKey endKey : VersionKey) : List String :=
  let selected := releases.filterMap fun release =>
    if release.moniker ≠ "stable" ∧ release.moniker ≠ "longterm" then none
    else
      match decomposeVersionForCompare release.version with
      | none => none
      | some key => if key < startKey ∨ key > endKey then none else some (release.version,key)
  (selected.mergeSort fun first second => decide (first.2 ≤ second.2)).map Prod.fst

/-- What resolving a kernel takes from the network, the cache and the file system: the directory, or an error. -/
structure Resolver where
  cachedReleases : Except String (List Release)
  cached : KernelId → Except String String
  gitKernel : String → String → Except String String
  pathKernel : String → Except String (String × String)

variable (resolver : Resolver)

def expandKernelRange (start stop : String) : Except String (List String) :=
  match decomposeVersionForCompare start,decomposeVersionForCompare stop with
  | none,_ => .error ("kernel range start \x60" ++ start ++ "\x60 is not a parseable version. " ++
      "Endpoints must match \x60MAJOR.MINOR[.PATCH][-rcN]\x60.")
  | some _,none => .error ("kernel range end \x60" ++ stop ++ "\x60 is not a parseable version. " ++
      "Endpoints must match \x60MAJOR.MINOR[.PATCH][-rcN]\x60.")
  | some startKey,some endKey => do
    let releases ← resolver.cachedReleases
    let versions := filterAndSortRange releases startKey endKey
    if versions.isEmpty then
      .error ("kernel range " ++ start ++ ".." ++ stop ++ " expanded to 0 stable releases. " ++
        "releases.json has no \x60stable\x60 or \x60longterm\x60 rows in this interval — verify the endpoints, or use " ++
        "a single \x60--kernel <version>\x60 if you want a pre-release or archived version.")
    else .ok versions

def cacheKeyToVersionLabel (key : String) : String :=
  if key = "local" then "local"
  else
    match stripPrefix key "local-" with
    | some rest =>
      let discriminator := rest.toList.takeWhile (· != '-')
      if discriminator.isEmpty then "local"
      else
        let suffix := if discriminator = "unknown".toList then discriminator else discriminator.take 6
        "local_" ++ String.ofList suffix
    | none =>
      match find "-tarball-".toList key.toList,find "-git-".toList key.toList with
      | some stop,_ => String.ofList (key.toList.take stop)
      | none,some stop => String.ofList (key.toList.take stop)
      | none,none => key

def segmentsLabel (segments : List String) (gitRef : String) : String :=
  match segments.reverse with
  | [] => "git_repo_" ++ gitRef
  | [repo] => "git_" ++ repo ++ "_" ++ gitRef
  | repo::owner::_ => "git_" ++ owner ++ "_" ++ repo ++ "_" ++ gitRef

def gitKernelLabel (url gitRef : String) : String :=
  let afterScheme := ((splitOnceOn "://" url).map Prod.snd).getD url
  let path := ((splitOnce '/' afterScheme).map Prod.snd).getD afterScheme
  let trimmed := String.ofList (trim (· == '/') path.toList)
  let trimmed := (stripSuffix trimmed ".git").getD trimmed
  segmentsLabel ((split '/' trimmed).filter fun segment => !segment.isEmpty) gitRef

def resolveOne : KernelId → Except String (String × String)
  | .path place => resolver.pathKernel place
  | .version ver => (resolver.cached (.version ver)).map fun dir => (ver,dir)
  | .cacheKey key => (resolver.cached (.cacheKey key)).map fun dir => (cacheKeyToVersionLabel key,dir)
  | .git url gitRef =>
    match resolver.gitKernel url gitRef with
    | .ok dir => .ok (gitKernelLabel url gitRef,dir)
    | .error e => .error ("resolve git+" ++ url ++ "#" ++ gitRef ++ ": " ++ e)
  | .range start stop =>
    .error ("internal: resolve_one called with Range " ++ start ++ ".." ++ stop ++ "; caller must expand Range via " ++
      "\x60expand_kernel_range\x60 and call \x60resolve_one\x60 per version")

def resolveVersion (ver : String) : Except String (String × String) :=
  match resolveOne resolver (.version ver) with
  | .ok pair => .ok pair
  | .error e => .error ("resolve kernel " ++ ver ++ ": " ++ e)

def resolveSpec (raw : String) : Except String (List (String × String)) :=
  let trimmed := String.ofList (trim isWhitespace raw.toList)
  if trimmed.isEmpty then .ok []
  else
    let id := KernelId.parse trimmed
    match id.validate,id with
    | .error e,_ => .error ("--kernel " ++ id.display ++ ": " ++ e)
    | .ok _,.range start stop => do
      let versions ← expandKernelRange resolver start stop
      versions.mapM (resolveVersion resolver)
    | .ok _,other => (resolveOne resolver other).map fun pair => [pair]

def entryMatchesSpec (entry : KernelEntry) (spec : String) : Bool :=
  match KernelId.parse spec with
  | .version specVer => entry.label == specVer || entry.sanitized.text == sanitizeKernelLabel specVer
  | .range start stop =>
    match decomposeVersionForCompare entry.label,decomposeVersionForCompare start,decomposeVersionForCompare stop with
    | some entryKey,some startKey,some endKey => decide (entryKey ≥ startKey) && decide (entryKey ≤ endKey)
    | _,_,_ => false
  | .cacheKey _ | .path _ | .git _ _ => entry.sanitized.text == sanitizeKernelLabel spec

def schedKernelFilterAccepts (declared : List String) (entry : KernelEntry) : Bool :=
  declared.isEmpty || declared.any (entryMatchesSpec entry)

end Ktstr.Source.KernelSpecs
