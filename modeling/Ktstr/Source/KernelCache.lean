import Ktstr.Library.Locks
import Ktstr.Library.Runs
import Ktstr.Library.Text

/-! One key of the kernel cache: `store` and `lookup` of `cache/cache_dir.rs` with `read_metadata`,
`clean_orphaned_tmp_dirs`, `atomic_swap_dirs` and `TmpDirGuard` of `cache/housekeeping.rs`. Every call to the file system
or to `flock` is a step; `remove_dir_all` is one step for each file and one for the directory. Any call may fail, any
process may die between two calls, and `kill` may say of any pid that it is dead. -/
namespace Ktstr.Source.KernelCache
open Library.Locks Library.Text

structure KernelMetadata where
  version : Option String
  source : String
  arch : String
  imageName : String
  configHash : Option String
  builtAt : String
  ktstrKconfigHash : Option String
  extraKconfigHash : Option String
  hasVmlinux : Bool
  vmlinuxStripped : Bool
  sourceVmlinuxSize : Option UInt64
  sourceVmlinuxMtimeSecs : Option Int64
deriving DecidableEq

/-- `serde_json` on metadata. -/
structure Json where
  toStringPretty : KernelMetadata → List UInt8
  fromStr : List UInt8 → Option KernelMetadata

structure File where
  writer : Nat
  bytes : List UInt8
deriving DecidableEq

structure Dir where
  files : List (String × File) := []
deriving DecidableEq

def Dir.get (dir : Dir) (name : String) : Option File := dir.files.lookup name

def Dir.remove (dir : Dir) (name : String) : Dir := ⟨dir.files.filter (·.1 != name)⟩

def Dir.write (dir : Dir) (name : String) (file : File) : Dir := ⟨(name,file)::(dir.remove name).files⟩

structure FileSystem where
  final : Option Dir := none
  tmp : Nat → Option Dir := fun _ => none

def FileSystem.setTmp (fs : FileSystem) (pid : Nat) (dir : Option Dir) : FileSystem :=
  { fs with tmp := Function.update fs.tmp pid dir }

structure CacheEntry where
  metadata : KernelMetadata
deriving DecidableEq

inductive Looking
  | isDir
  | readMetadata
  | imageExists (metadata : KernelMetadata)
  | done (found : Option CacheEntry)
deriving DecidableEq

variable (json : Json) (fs : FileSystem) (pid : Nat)

def readMetadata (dir : Dir) : Option KernelMetadata :=
  (dir.get "metadata.json").bind fun file => json.fromStr file.bytes

/-- The next call of `lookup_silent`, which finds nothing if it fails. -/
def lookStep (final : Option Dir) : Looking → Bool → Looking
  | .done found,_ => .done found
  | _,true => .done none
  | .isDir,false => if final.isSome then .readMetadata else .done none
  | .readMetadata,false =>
    match final.bind (readMetadata json) with
    | none => .done none
    | some metadata => .imageExists metadata
  | .imageExists metadata,false =>
    if (final.bind fun dir => dir.get metadata.imageName).isSome then .done (some ⟨metadata⟩) else .done none

def validateFilename (name : String) : Bool :=
  !(name.isEmpty || contains name "/" || contains name "\\" || contains name ".." || contains name "\x00")

def cacheContentMatches (cached caller : KernelMetadata) (callerHasVmlinux : Bool) : Bool :=
  cached.configHash == caller.configHash && cached.ktstrKconfigHash == caller.ktstrKconfigHash &&
    cached.extraKconfigHash == caller.extraKconfigHash && cached.hasVmlinux == callerHasVmlinux

inductive Move
  | go
  | fail
  | unlink (name : String)
  | probe (pid : Nat) (dead : Bool)

def Move.fails : Move → Bool
  | .fail => true
  | _ => false

/-- A kernel symbol file, and what `strip_vmlinux_debug` makes of it. -/
structure Vmlinux where
  raw : List UInt8
  stripped : Option (List UInt8)

structure StoreCall where
  number : Nat
  metadata : KernelMetadata
  image : List UInt8
  vmlinux : Option Vmlinux

variable (call : StoreCall) (dir : Dir)

def withImage : Dir := dir.write call.metadata.imageName ⟨call.number,call.image⟩

def withVmlinux : Dir :=
  match call.vmlinux with
  | none => dir
  | some vmlinux => dir.write "vmlinux" ⟨call.number,vmlinux.stripped.getD vmlinux.raw⟩

def publishedMetadata : KernelMetadata :=
  { call.metadata with
    hasVmlinux := call.vmlinux.isSome
    vmlinuxStripped := (call.vmlinux.bind Vmlinux.stripped).isSome }

def withMetadata : Dir :=
  dir.write "metadata.json" ⟨call.number,json.toStringPretty (publishedMetadata call)⟩

inductive Stage
  | rechecking (looking : Looking)
  | preparing
  | removing
  | sweeping (victim : Option Nat)
  | creating
  | copyingImage
  | copyingVmlinux
  | writingMetadata
  | publishing
  | swapping
  | cleaning
  | releasing

/-- The file system after a call, where the store goes on, and whether the call published. -/
structure Outcome where
  fs : FileSystem
  stage : Option Stage
  published : Bool := false

variable (move : Move)

/-- One call of `remove_dir_all`; `gone` once the directory is. -/
def removeStep (here gone failed : Stage) : Outcome :=
  match fs.tmp pid with
  | none => ⟨fs,some gone,false⟩
  | some dir =>
    match move with
    | .unlink name => ⟨fs.setTmp pid (some (dir.remove name)),some here,false⟩
    | .go => if dir.files.isEmpty then ⟨fs.setTmp pid none,some gone,false⟩ else ⟨fs,some here,false⟩
    | _ => ⟨fs,some failed,false⟩

def writeStep (change : Dir → Dir) (next : Stage) : Outcome :=
  match move,fs.tmp pid with
  | .go,some dir => ⟨fs.setTmp pid (some (change dir)),some next,false⟩
  | _,_ => ⟨fs,some .cleaning,false⟩

def storeStep (stage : Stage) (move : Move) : Outcome :=
  match stage with
  | .rechecking looking =>
    match looking with
    | .done (some existing) =>
      if cacheContentMatches existing.metadata call.metadata call.vmlinux.isSome then ⟨fs,some .releasing,false⟩
      else ⟨fs,some .preparing,false⟩
    | .done none => ⟨fs,some .preparing,false⟩
    | _ => ⟨fs,some (.rechecking (lookStep json fs.final looking move.fails)),false⟩
  | .preparing => if (fs.tmp pid).isSome then ⟨fs,some .removing,false⟩ else ⟨fs,some (.sweeping none),false⟩
  | .removing => removeStep fs pid move .removing (.sweeping none) .releasing
  | .sweeping none =>
    match move with
    | .probe victim dead =>
      if (fs.tmp victim).isSome && dead then ⟨fs,some (.sweeping (some victim)),false⟩
      else ⟨fs,some (.sweeping none),false⟩
    | _ => ⟨fs,some .creating,false⟩
  | .sweeping (some victim) => removeStep fs victim move (.sweeping (some victim)) (.sweeping none) (.sweeping none)
  | .creating =>
    match move with
    | .go => ⟨fs.setTmp pid (some ((fs.tmp pid).getD {})),some .copyingImage,false⟩
    | _ => ⟨fs,some .releasing,false⟩
  | .copyingImage => writeStep fs pid move (withImage call) .copyingVmlinux
  | .copyingVmlinux => writeStep fs pid move (withVmlinux call) .writingMetadata
  | .writingMetadata => writeStep fs pid move (withMetadata json call) .publishing
  | .publishing =>
    match move,fs.tmp pid,fs.final with
    | .go,some dir,none => ⟨{ fs.setTmp pid none with final := some dir },some .cleaning,true⟩
    | .go,some dir,some old =>
      -- An empty directory is replaced by the rename; any other makes it fail with `ENOTEMPTY`.
      if old.files.isEmpty then ⟨{ fs.setTmp pid none with final := some dir },some .cleaning,true⟩
      else ⟨fs,some .swapping,false⟩
    | _,_,_ => ⟨fs,some .cleaning,false⟩
  | .swapping =>
    match move,fs.tmp pid,fs.final with
    | .go,some dir,some old => ⟨{ fs.setTmp pid (some old) with final := some dir },some .cleaning,true⟩
    | _,_,_ => ⟨fs,some .cleaning,false⟩
  | .cleaning => removeStep fs pid move .cleaning .releasing .releasing
  | .releasing => ⟨fs,none,false⟩

/-- What a process is doing. A reader has its lookup, if it has begun one, with the entry directory at that time. -/
inductive Task
  | absent
  | idle
  | waiting (call : StoreCall)
  | storing (call : StoreCall) (stage : Stage)
  | reading (lookup : Option (Looking × Option Dir))

structure State where
  fs : FileSystem := {}
  holders : List (Nat × Mode) := []
  tasks : Nat → Task := fun _ => .absent
  pids : Nat → Nat := fun _ => 0
  calls : Nat := 0
  published : List StoreCall := []

inductive Event
  | start (process pid : Nat)
  | crash (process : Nat)
  | store (process : Nat) (metadata : KernelMetadata) (image : List UInt8) (vmlinux : Option Vmlinux)
  | acquireShared (process : Nat)
  | lookup (process : Nat)
  | release (process : Nat)
  | advance (process : Nat) (move : Move)

def State.setTask (state : State) (process : Nat) (task : Task) : State :=
  { state with tasks := Function.update state.tasks process task }

def advance (state : State) (process : Nat) (move : Move) : State :=
  match state.tasks process with
  | .waiting call =>
    match move with
    | .fail => state.setTask process .idle
    | _ =>
      match tryLock state.holders process .exclusive with
      | none => state
      | some holders => { state with holders := holders }.setTask process (.storing call (.rechecking .isDir))
  | .storing call stage =>
    let outcome := storeStep json state.fs (state.pids process) call stage move
    let state := { state with
      fs := outcome.fs
      published := if outcome.published then state.published ++ [call] else state.published }
    match outcome.stage with
    | some stage => state.setTask process (.storing call stage)
    | none => { state with holders := unlock state.holders process }.setTask process .idle
  | .reading (some (looking,seen)) =>
    state.setTask process (.reading (some (lookStep json state.fs.final looking move.fails,seen)))
  | _ => state

def step (state : State) : Event → State
  | .start process pid =>
    match state.tasks process with
    | .absent => { state with pids := Function.update state.pids process pid }.setTask process .idle
    | _ => state
  | .crash process => { state with holders := unlock state.holders process }.setTask process .absent
  | .store process metadata image vmlinux =>
    match state.tasks process,validateFilename metadata.imageName with
    | .idle,true =>
      { state with calls := state.calls + 1 }.setTask process (.waiting ⟨state.calls,metadata,image,vmlinux⟩)
    | _,_ => state
  | .acquireShared process =>
    match state.tasks process,tryLock state.holders process .shared with
    | .idle,some holders => { state with holders := holders }.setTask process (.reading none)
    | _,_ => state
  | .lookup process =>
    match state.tasks process with
    | .reading _ => state.setTask process (.reading (some (.isDir,state.fs.final)))
    | _ => state
  | .release process =>
    match state.tasks process with
    | .reading _ => { state with holders := unlock state.holders process }.setTask process .idle
    | _ => state
  | .advance process move => advance json state process move

end Ktstr.Source.KernelCache
