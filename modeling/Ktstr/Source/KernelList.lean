import Ktstr.Source.Patterns

/-! The list of kernels handed from `cargo ktstr` to the test binary: the encoder and the collision
check of `bin/cargo_ktstr/kernel/wire_format.rs`, the reader and the test names of
`test_support/dispatch.rs`. `quote` prints a text in quotes with its escapes. -/
namespace Ktstr.Source.KernelList
open Library.Text Patterns

def sanitizeStep (state : List Char × Bool) (ch : Char) : List Char × Bool :=
  let c := ch.toLower
  if c.isAlphanum then (state.1 ++ [c],false)
  else if !state.2 then (state.1 ++ ['_'],true)
  else state

variable (raw : String)

def sanitizeKernelLabel : String :=
  -- A separator right behind the first one is suppressed.
  let out := (raw.toList.foldl sanitizeStep ("kernel_".toList,true)).1
  String.ofList (if out.getLast? = some '_' ∧ out.length > "kernel_".length then out.dropLast else out)

structure SanitizedKernelLabel where
  text : String
  sanitized : ∃ raw, text = sanitizeKernelLabel raw

def SanitizedKernelLabel.new : SanitizedKernelLabel := ⟨sanitizeKernelLabel raw,raw,rfl⟩

structure KernelEntry where
  label : String
  sanitized : SanitizedKernelLabel
  kernelDir : String

variable (quote : String → String)

def encodeKernelList (resolved : List (String × String)) : Except String String :=
  let rejected := resolved.findSome? fun pair =>
    if pair.1.toList.contains ';' then
      some ("kernel label " ++ quote pair.1 ++ " contains a \x60;\x60; " ++
        "KTSTR_KERNEL_LIST uses \x60;\x60 as the entry separator. " ++
        "The label-emission path must produce \x60;\x60-free identifiers — " ++
        "if a producer is emitting this label, fix the producer to " ++
        "sanitize/strip \x60;\x60 from its output.")
    else if pair.1.toList.contains '=' then
      some ("kernel label " ++ quote pair.1 ++ " contains a \x60=\x60; " ++
        "KTSTR_KERNEL_LIST uses \x60=\x60 to separate label from path within an entry. " ++
        "The label-emission path must produce \x60=\x60-free identifiers — " ++
        "if a producer is emitting this label, fix the producer to " ++
        "sanitize/strip \x60=\x60 from its output.")
    else none
  let rejectedDir := resolved.findSome? fun pair =>
    if pair.2.toList.contains ';' then
      some ("kernel directory path for " ++ quote pair.1 ++ " contains a \x60;\x60 (" ++ quote pair.2 ++ "); " ++
        "KTSTR_KERNEL_LIST uses \x60;\x60 as the entry separator and cannot encode " ++
        "such paths. Move or symlink the kernel cache to a path without \x60;\x60.")
    else none
  match rejected,rejectedDir with
  | some message,_ => .error message
  | none,some message => .error message
  | none,none => .ok (String.intercalate ";" (resolved.map fun pair => pair.1 ++ "=" ++ pair.2))

def detectFrom (quote : String → String) : List (String × String) → List (String × String) → Except String Unit
  | _,[] => .ok ()
  | seen,(label,_)::rest =>
    let sanitized := sanitizeKernelLabel label
    match seen.lookup sanitized with
    | some prior =>
      .error ("--kernel: labels " ++ quote prior ++ " and " ++ quote label ++ " both sanitize to " ++ quote sanitized ++
        " — the nextest test-name suffix cannot disambiguate them. " ++
        "Spell each --kernel value distinctly so its sanitized form is unique.")
    | none => detectFrom quote ((sanitized,label)::seen) rest

def detectLabelCollisions (resolved : List (String × String)) : Except String Unit :=
  detectFrom quote [] resolved

def parseSegment (seg : String) : Option KernelEntry :=
  let seg := String.ofList (trim isWhitespace seg.toList)
  if seg.isEmpty then none
  else do
    let (label,path) ← splitOnce '=' seg
    let label := String.ofList (trim isWhitespace label.toList)
    let path := String.ofList (trim isWhitespace path.toList)
    if label.isEmpty || path.isEmpty then none else some ⟨label,.new label,path⟩

def parseKernelList : List KernelEntry := (split ';' raw).filterMap parseSegment

def stripKernelSuffix (name : String) (kernelList : List KernelEntry) :
    Except String (String × Option KernelEntry) :=
  if kernelList.length ≤ 1 then .ok (name,none)
  else
    match kernelList.findSome? fun entry => (stripSuffix name ("/" ++ entry.sanitized.text)).map (·,entry) with
    | some (stripped,entry) => .ok (stripped,some entry)
    | none =>
      .error ("test name " ++ quote name ++ " has no recognised kernel suffix (KTSTR_KERNEL_LIST " ++
        "carries " ++ toString kernelList.length ++ " kernels — every test name must end with \x60/kernel_…\x60)")

end Ktstr.Source.KernelList
