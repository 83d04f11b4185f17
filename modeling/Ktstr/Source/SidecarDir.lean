import Mathlib.Data.Finset.Insert
import Ktstr.Library.Text
import Std.Data.ExtTreeMap

/-! Writing of result sidecars, from `test_support/sidecar/mod.rs`: calls of several processes share one run directory,
each takes the lock, clears the directory once for its process, and puts its file in place. One step is one operation on the
file system. -/
namespace Ktstr.Source.SidecarDir
open Std Library.Text

inductive Node
  | file (content : List Char)
  | folder
deriving DecidableEq

structure RunId where
  stamp : String
  counter : Nat
  plain : '.' ∉ stamp.toList

def RunId.text (id : RunId) : String := id.stamp ++ "-" ++ toString id.counter

structure Call (π : Type) where
  process : π
  pid : Nat
  testName : String
  variantHash : Nat
  runId : RunId
  /-- The sidecar as JSON. -/
  json : List Char

variable {π ι : Type}

def hex16 (value : Nat) : String := String.ofList ((Nat.toDigits 16 value).leftpad 16 '0')

def Call.path (call : Call π) : String := call.testName ++ "-" ++ hex16 call.variantHash ++ ".ktstr.json"

def Call.staging (call : Call π) : String := call.path ++ ".tmp." ++ toString call.pid ++ "." ++ call.runId.text

def extension (name : String) : Option String :=
  match rsplitOnce '.' name with
  | some (stem,ext) => if stem = "" then none else some ext
  | none => none

def isSidecarFilename (name : String) : Bool := extension name = some "json" && contains name ".ktstr."

def isSidecarStagingFilename (name : String) : Bool := contains name ".ktstr.json.tmp."

/-- How the sweep of each process goes: whether the directory can be read, in which order it is listed, and which entries can
be read and removed. -/
structure Disk (π : Type) where
  lists : π → Bool
  order : π → List String → List String
  removes : π → String → Bool

inductive Phase
  | idle
  | waiting
  | locked
  | sweeping (rest : List String)
  | swept
  | opening
  | writing (written : Nat)
  | staged
  | unstaging
  | closing (ok : Bool)
  | returned (ok : Bool)
deriving DecidableEq

structure World (π ι : Type) where
  dir : ExtTreeMap String Node
  lock : Option ι
  /-- Processes that have cleared the directory. -/
  cleared : Finset π
  phase : ι → Phase

/-- The next operation of a call: whether it fails, and how much a write writes. -/
structure Event (ι : Type) where
  call : ι
  fails : Bool := false
  amount : Nat := 0

def isFile (dir : ExtTreeMap String Node) (name : String) : Bool :=
  match dir[name]? with
  | some (.file _) => true
  | _ => false

variable [DecidableEq ι]

def World.to (world : World π ι) (call : ι) (phase : Phase) : World π ι :=
  {world with phase := Function.update world.phase call phase}

def sweepEntry (disk : Disk π) (process : π) (dir : ExtTreeMap String Node) (name : String) : ExtTreeMap String Node :=
  if isFile dir name && (isSidecarFilename name || isSidecarStagingFilename name) && disk.removes process name then
    dir.erase name
  else dir

variable [DecidableEq π]

/-- `pre_clear_run_dir_once` up to the listing: nothing is done a second time, or if the directory cannot be read. -/
def preClear (disk : Disk π) (process : π) (world : World π ι) (call : ι) : World π ι :=
  if process ∈ world.cleared then world.to call .swept
  else if disk.lists process then world.to call (.sweeping (disk.order process world.dir.keys))
  else {world.to call .swept with cleared := insert process world.cleared}

def rename (dir : ExtTreeMap String Node) (source target : String) : Option (ExtTreeMap String Node) :=
  match dir[source]?,dir[target]? with
  | none,_ | _,some .folder => none
  | some node,_ => some ((dir.erase source).insert target node)

def advance (disk : Disk π) (call : Call π) (world : World π ι) (event : Event ι) : Phase → World π ι
  -- The directory is created.
  | .idle => world.to event.call (if event.fails then .returned false else .waiting)
  -- The lock is tried again and again, and given up after a while.
  | .waiting =>
    if event.fails then world.to event.call (.returned false)
    else if world.lock.isNone then {world.to event.call .locked with lock := some event.call}
    else world
  | .locked => preClear disk call.process world event.call
  | .sweeping [] => {world.to event.call .swept with cleared := insert call.process world.cleared}
  | .sweeping (name::rest) =>
    {world.to event.call (.sweeping rest) with dir := sweepEntry disk call.process world.dir name}
  -- The sidecar is serialised.
  | .swept => world.to event.call (if event.fails then .closing false else .opening)
  | .opening =>
    if event.fails || world.dir[call.staging]? = some .folder then world.to event.call (.closing false)
    else {world.to event.call (.writing 0) with dir := world.dir.insert call.staging (.file [])}
  | .writing written =>
    if event.fails then world.to event.call (.closing false)
    else
      let written := min (written + event.amount) call.json.length
      {world.to event.call (if written = call.json.length then .staged else .writing written) with
        dir := world.dir.insert call.staging (.file (call.json.take written))}
  | .staged =>
    match if event.fails then none else rename world.dir call.staging call.path with
    | none => world.to event.call .unstaging
    | some dir => {world.to event.call (.closing true) with dir := dir}
  | .unstaging =>
    {world.to event.call (.closing false) with
      dir := if event.fails then world.dir else world.dir.erase call.staging}
  | .closing ok => {world.to event.call (.returned ok) with lock := none}
  | .returned _ => world

def step (disk : Disk π) (calls : ι → Call π) (world : World π ι) (event : Event ι) : World π ι :=
  advance disk (calls event.call) world event (world.phase event.call)

end Ktstr.Source.SidecarDir
