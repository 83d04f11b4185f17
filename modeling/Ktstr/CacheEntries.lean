import Ktstr.Source.KernelCache

/-! Entries of the kernel cache are never torn: whoever touches the file system under a key holds its lock alone, so
the entry directory is always what one store call staged, and nothing moves while a reader holds the lock. -/
namespace Ktstr.CacheEntries
open Source.KernelCache Library.Locks Library.Runs List Option State Function

section
variable (json : Json)

def staged (call : StoreCall) : Dir := withMetadata json call (withVmlinux call (withImage call {}))

def WrittenBy (call : StoreCall) (dir : Dir) : Prop := ∀ file ∈ dir.files, file.2.writer = call.number

def Staging : Stage → Prop
  | .rechecking _ | .cleaning | .releasing => False
  | _ => True

structure NeverTorn (state : State) : Prop where
  alone : ∀ process other first second before after, state.tasks process = .storing first before → Staging before →
    state.tasks other = .storing second after → Staging after → process = other
  whole : ∀ process entry seen, state.tasks process = .reading (some (.done (some entry),seen)) →
    ∃ call ∈ state.published, ∃ dir, state.fs.final = some dir ∧ dir = staged json call ∧ WrittenBy call dir ∧
      readMetadata json dir = some entry.metadata ∧ (dir.get entry.metadata.imageName).isSome = true
  steady : ∀ process looking seen, state.tasks process = .reading (some (looking,seen)) → state.fs.final = seen

theorem writtenBy_write (call : StoreCall) (dir : Dir) (name : String) (bytes : List UInt8)
    (written : WrittenBy call dir) : WrittenBy call (dir.write name ⟨call.number,bytes⟩) := by
  intro file mem
  rcases mem_cons.mp mem with rfl | old
  · rfl
  · exact written file (mem_of_mem_filter old)

theorem writtenBy_staged {call : StoreCall} : WrittenBy call (staged json call) := by
  have image : WrittenBy call (withImage call {}) := writtenBy_write call {} _ _ nofun
  refine writtenBy_write call _ _ _ ?_
  unfold withVmlinux
  split
  · exact image
  · exact writtenBy_write call _ _ _ image

def Staged (call : StoreCall) (tmp : Option Dir) : Stage → Prop
  | .sweeping _ | .creating => tmp = none
  | .copyingImage => tmp = some {}
  | .copyingVmlinux => tmp = some (withImage call {})
  | .writingMetadata => tmp = some (withVmlinux call (withImage call {}))
  | .publishing | .swapping => tmp = some (staged json call)
  | .rechecking _ | .preparing | .removing | .cleaning | .releasing => True

def Looked (final : Option Dir) : Looking → Prop
  | .imageExists metadata => final.bind (readMetadata json) = some metadata
  | .done (some entry) => final.bind (readMetadata json) = some entry.metadata ∧
      (final.bind fun dir => dir.get entry.metadata.imageName).isSome = true
  | _ => True

theorem looked_step {final : Option Dir} {looking : Looking} {fails : Bool}
    (looked : Looked json final looking) : Looked json final (lookStep json final looking fails) := by
  cases looking with
  | done found => exact looked
  | isDir =>
    cases fails with
    | true => trivial
    | false =>
      simp only [lookStep]
      split <;> trivial
  | readMetadata =>
    cases fails with
    | true => trivial
    | false =>
      simp only [lookStep]
      split
      · trivial
      · rename_i metadata found
        exact found
  | imageExists metadata =>
    cases fails with
    | true => trivial
    | false =>
      simp only [lookStep]
      split
      · rename_i image
        exact ⟨looked,image⟩
      · trivial

variable (fs : FileSystem) (pid : Nat) (call : StoreCall)

@[simp] theorem setTmp_same {dir : Option Dir} : (fs.setTmp pid dir).tmp pid = dir := by
  simp [FileSystem.setTmp]

theorem setTmp_other {other : Nat} (dir : Option Dir) (apart : other ≠ pid) :
    (fs.setTmp pid dir).tmp other = fs.tmp other := by
  simp [FileSystem.setTmp,apart]

theorem removeStep_spec {victim : Nat} {move : Move} {here gone failed : Stage} {outcome : Outcome}
    (is : removeStep fs victim move here gone failed = outcome) :
    (outcome.fs.final = fs.final ∧ outcome.published = false) ∧
      (∀ other, other ≠ victim ∨ fs.tmp victim = none → outcome.fs.tmp other = fs.tmp other) ∧
      (outcome.stage = some here ∨ outcome.stage = some gone ∧ outcome.fs.tmp victim = none ∨
        outcome.stage = some failed) := by
  unfold removeStep at is
  split at is
  · rename_i now
    subst is
    exact ⟨⟨rfl,rfl⟩,fun _ _ => rfl,.inr (.inl ⟨rfl,now⟩)⟩
  · rename_i dir now
    have others : ∀ next other, other ≠ victim ∨ fs.tmp victim = none →
        (fs.setTmp victim next).tmp other = fs.tmp other := fun next other apart =>
      setTmp_other fs victim next (apart.resolve_right (by rw [now]; nofun))
    split at is
    · subst is
      exact ⟨⟨rfl,rfl⟩,others _,.inl rfl⟩
    · split at is
      · subst is
        exact ⟨⟨rfl,rfl⟩,others none,.inr (.inl ⟨rfl,setTmp_same fs victim⟩)⟩
      · subst is
        exact ⟨⟨rfl,rfl⟩,fun _ _ => rfl,.inl rfl⟩
    · subst is
      exact ⟨⟨rfl,rfl⟩,fun _ _ => rfl,.inr (.inr rfl)⟩

/-- One call of a store: it publishes nothing or its own staging directory, and leaves that as its next stage has it. -/
private structure Keeps (fs : FileSystem) (pid : Nat) (call : StoreCall) (outcome : Outcome) : Prop where
  final : outcome.fs.final = fs.final ∧ outcome.published = false ∨
    outcome.fs.final = some (staged json call) ∧ outcome.published = true
  stage : ∀ next, outcome.stage = some next → Staged json call (outcome.fs.tmp pid) next

variable (next : Stage)

variable {json fs pid call next}

theorem keeps_same (after : Staged json call (fs.tmp pid) next) : Keeps json fs pid call ⟨fs,some next,false⟩ where
  final := .inl ⟨rfl,rfl⟩
  stage _ is := by
    cases is
    exact after

variable (json fs pid call next)

theorem keeps_tmp (dir : Option Dir) (after : Staged json call dir next) :
    Keeps json fs pid call ⟨fs.setTmp pid dir,some next,false⟩ where
  final := .inl ⟨rfl,rfl⟩
  stage _ is := by
    cases is
    simpa only [setTmp_same] using after

theorem keeps_write (move : Move) (change : Dir → Dir) (next : Stage) (dir : Dir) (before : fs.tmp pid = some dir)
    (after : Staged json call (some (change dir)) next) :
    Keeps json fs pid call (writeStep fs pid move change next) := by
  unfold writeStep
  split
  · rename_i found
    cases found.symm.trans before
    exact keeps_tmp json fs pid call next _ after
  · exact keeps_same trivial

variable {json fs pid}

theorem keeps_publish {left : Option Dir} {dir : Dir} (own : some dir = some (staged json call)) :
    Keeps json fs pid call ⟨{ fs.setTmp pid left with final := some dir },some .cleaning,true⟩ where
  final := .inr ⟨own,rfl⟩
  stage _ is := by
    cases is
    trivial

theorem keeps_remove {victim : Nat} {call : StoreCall} {move : Move} {here gone failed : Stage}
    (leaves : ∀ tmp next, next = here ∨ next = gone ∧ (victim = pid → tmp = none) ∨ next = failed →
      (victim ≠ pid ∨ fs.tmp victim = none → tmp = fs.tmp pid) → Staged json call tmp next) :
    Keeps json fs pid call (removeStep fs victim move here gone failed) := by
  obtain ⟨same,others,result⟩ := removeStep_spec fs rfl
  refine ⟨.inl same,fun next is => leaves _ next ?_ fun apart => others pid (apart.imp Ne.symm id)⟩
  rcases result with stage | ⟨stage,emptied⟩ | stage
  · exact .inl (some.inj (is.symm.trans stage))
  · exact .inr (.inl ⟨some.inj (is.symm.trans stage),fun own => own ▸ emptied⟩)
  · exact .inr (.inr (some.inj (is.symm.trans stage)))

theorem keeps_store {stage : Stage} (move : Move) (before : Staged json call (fs.tmp pid) stage) :
    Keeps json fs pid call (storeStep json fs pid call stage move) := by
  cases stage with
  | rechecking looking =>
    simp only [storeStep]
    split
    · split <;> exact keeps_same trivial
    · exact keeps_same trivial
    · exact keeps_same trivial
  | preparing =>
    simp only [storeStep]
    split
    · exact keeps_same trivial
    · rename_i missing
      have none : fs.tmp pid = none := by simpa using missing
      exact keeps_same none
  | removing =>
    refine keeps_remove ?_
    rintro tmp next (rfl | ⟨rfl,emptied⟩ | rfl) _
    · trivial
    · exact emptied rfl
    · trivial
  | sweeping victim =>
    cases victim with
    | none =>
      simp only [storeStep]
      split
      · split <;> exact keeps_same before
      · exact keeps_same before
    | some victim =>
      refine keeps_remove ?_
      intro tmp next reached kept
      -- The own directory does not exist while others are swept.
      have still : tmp = none := by
        by_cases own : victim = pid
        · rw [kept (.inr (own ▸ before))]
          exact before
        · rw [kept (.inl own)]
          exact before
      rcases reached with rfl | ⟨rfl,_⟩ | rfl <;> exact still
  | creating =>
    simp only [storeStep]
    split
    · have none : fs.tmp pid = none := before
      rw [none]
      exact keeps_tmp json fs pid call _ _ rfl
    · exact keeps_same trivial
  | copyingImage => exact keeps_write json fs pid call move (withImage call) .copyingVmlinux {} before rfl
  | copyingVmlinux =>
    exact keeps_write json fs pid call move (withVmlinux call) .writingMetadata (withImage call {}) before rfl
  | writingMetadata =>
    exact keeps_write json fs pid call move (withMetadata json call) .publishing (withVmlinux call (withImage call {}))
      before rfl
  | publishing =>
    simp only [storeStep]
    split
    · rename_i found _
      exact keeps_publish call (found.symm.trans before)
    · rename_i old found _
      split
      · exact keeps_publish call (found.symm.trans before)
      · exact keeps_same before
    · exact keeps_same trivial
  | swapping =>
    simp only [storeStep]
    split
    · rename_i old found _
      exact keeps_publish call (found.symm.trans before)
    · exact keeps_same trivial
  | cleaning =>
    refine keeps_remove ?_
    rintro tmp next (rfl | ⟨rfl,_⟩ | rfl) _ <;> trivial
  | releasing =>
    have ended : (storeStep json fs pid call .releasing move).stage = none := rfl
    exact ⟨.inl ⟨rfl,rfl⟩,fun _ is => absurd (is.symm.trans ended) (some_ne_none _)⟩

variable (fs json pid)

/-- A process that stores holds the lock alone, one that reads shares it. -/
private def Holds (fs : FileSystem) (holders : List (Nat × Mode)) (pid process : Nat) : Task → Prop
  | .storing call stage => (process,Mode.exclusive) ∈ holders ∧ Staged json call (fs.tmp pid) stage
  | .reading none => (process,Mode.shared) ∈ holders
  | .reading (some (looking,seen)) => (process,Mode.shared) ∈ holders ∧ fs.final = seen ∧ Looked json seen looking
  | .absent | .idle | .waiting _ => True

structure Guarded (state : State) : Prop where
  excluding : Excluding state.holders
  final : ∀ dir, state.fs.final = some dir → ∃ call ∈ state.published, dir = staged json call
  tasks : ∀ process, Holds json state.fs state.holders (state.pids process) process (state.tasks process)

theorem guarded_torn {state : State} (guarded : Guarded json state) : NeverTorn json state where
  alone process other first second before after is _ also _ := by
    have own := guarded.tasks process
    have others := guarded.tasks other
    rw [is] at own
    rw [also] at others
    cases guarded.excluding process own.1 _ others.1
    rfl
  whole process entry seen is := by
    have own := guarded.tasks process
    rw [is] at own
    obtain ⟨_,same,found,image⟩ := own
    obtain ⟨dir,entryIs,metadata⟩ := bind_eq_some_iff.mp found
    rw [entryIs] at image same
    obtain ⟨call,published,dirIs⟩ := guarded.final dir same
    exact ⟨call,published,dir,same,dirIs,dirIs ▸ writtenBy_staged json,metadata,image⟩
  steady process looking seen is := by
    have own := guarded.tasks process
    rw [is] at own
    exact own.2.1

theorem guarded_initial {tmp : Nat → Option Dir} : Guarded json { fs := { tmp := tmp } } where
  excluding _ held := by cases held
  final _ is := by cases is
  tasks _ := trivial

theorem holds_holders {fs : FileSystem} {holders more : List (Nat × Mode)} {pid process : Nat} {task : Task}
    (holds : Holds json fs holders pid process task)
    (kept : ∀ mode, (process,mode) ∈ holders → (process,mode) ∈ more) : Holds json fs more pid process task := by
  cases task with
  | storing call stage => exact ⟨kept _ holds.1,holds.2⟩
  | reading lookup =>
    cases lookup with
    | none => exact kept _ holds
    | some looked => exact ⟨kept _ holds.1,holds.2⟩
  | absent => trivial
  | idle => trivial
  | waiting call => trivial

theorem holds_alone {fs after : FileSystem} {holders more : List (Nat × Mode)} {pid process owner : Nat}
    {task : Task} (holds : Holds json fs holders pid process task) (excluding : Excluding holders)
    (owned : (owner,Mode.exclusive) ∈ holders) (apart : process ≠ owner) :
    Holds json after more pid process task := by
  cases task with
  | storing call stage =>
    cases excluding owner owned _ holds.1
    exact absurd rfl apart
  | reading lookup =>
    have shared : (process,Mode.shared) ∈ holders := by
      cases lookup with
      | none => exact holds
      | some looked => exact holds.1
    cases excluding owner owned _ shared
  | absent => trivial
  | idle => trivial
  | waiting call => trivial

theorem Guarded.task {state : State} (guarded : Guarded json state) (process : Nat) (task : Task)
    (holders : List (Nat × Mode)) (pids : Nat → Nat) (calls : Nat) (excluding : Excluding holders)
    (kept : ∀ other mode, other ≠ process → (other,mode) ∈ state.holders → (other,mode) ∈ holders)
    (same : ∀ other, other ≠ process → pids other = state.pids other)
    (own : Holds json state.fs holders (pids process) process task) :
    Guarded json ({ state with holders := holders, pids := pids, calls := calls }.setTask process task) where
  excluding := excluding
  final := guarded.final
  tasks other := by
    by_cases is : other = process
    · subst is
      simpa only [setTask,update_self] using own
    · simp only [setTask,update_of_ne is]
      rw [same other is]
      exact holds_holders json (guarded.tasks other) fun mode => kept other mode is

theorem Guarded.same {state : State} (guarded : Guarded json state) (process : Nat) (task : Task)
    (own : Holds json state.fs state.holders (state.pids process) process task) :
    Guarded json (state.setTask process task) :=
  guarded.task json process task state.holders state.pids state.calls guarded.excluding (fun _ _ _ => id)
    (fun _ _ => rfl) own

theorem Guarded.unlock {state : State} (guarded : Guarded json state) (process : Nat) (task : Task)
    (own : Holds json state.fs (unlock state.holders process) (state.pids process) process task) :
    Guarded json ({ state with holders := unlock state.holders process }.setTask process task) :=
  guarded.task json process task _ state.pids state.calls (excluding_unlock guarded.excluding)
    (fun _ _ apart held => (mem_unlock ..).mpr ⟨held,apart⟩) (fun _ _ => rfl) own

theorem Guarded.lock {state : State} (guarded : Guarded json state) (process : Nat) (task : Task) (mode : Mode)
    (holders : List (Nat × Mode)) (granted : tryLock state.holders process mode = some holders)
    (own : (process,mode) ∈ holders → Holds json state.fs holders (state.pids process) process task) :
    Guarded json ({ state with holders := holders }.setTask process task) := by
  have excluding := excluding_tryLock holders process granted
  cases mode with
  | exclusive =>
    obtain ⟨free,rfl⟩ := tryLock_exclusive holders process granted
    refine guarded.task json process task _ state.pids state.calls excluding (fun other mode _ held => ?_)
      (fun _ _ => rfl) (own (mem_singleton_self _))
    rw [free] at held
    cases held
  | shared =>
    obtain ⟨_,rfl⟩ := tryLock_shared holders process granted
    exact guarded.task json process task _ state.pids state.calls excluding
      (fun _ _ _ held => mem_cons_of_mem _ held) (fun _ _ => rfl) (own (mem_cons_self ..))

theorem Guarded.stored {state : State} (guarded : Guarded json state) (process : Nat) (call : StoreCall)
    (owned : (process,Mode.exclusive) ∈ state.holders) (outcome : Outcome)
    (keeps : Keeps json state.fs (state.pids process) call outcome) (task : Task)
    (own : Holds json outcome.fs state.holders (state.pids process) process task) :
    Guarded json ({ state with
      fs := outcome.fs
      published := if outcome.published then state.published ++ [call] else state.published }.setTask process task) where
  excluding := guarded.excluding
  final dir is := by
    rcases keeps.final with ⟨same,quiet⟩ | ⟨published,shown⟩
    · obtain ⟨writer,mem,dirIs⟩ := guarded.final dir (same ▸ is)
      exact ⟨writer,by simpa [setTask,quiet] using mem,dirIs⟩
    · cases published.symm.trans is
      exact ⟨call,by simp [setTask,shown],rfl⟩
  tasks other := by
    by_cases is : other = process
    · subst is
      simpa only [setTask,update_self] using own
    · simp only [setTask,update_of_ne is]
      exact holds_alone json (guarded.tasks other) guarded.excluding owned is

theorem guarded_advance {state : State} (guarded : Guarded json state) {process : Nat} {move : Move} :
    Guarded json (advance json state process move) := by
  have own := guarded.tasks process
  unfold advance
  cases now : state.tasks process with
  | absent => exact guarded
  | idle => exact guarded
  | waiting call =>
    dsimp only
    split
    · exact guarded.same json process .idle trivial
    · split
      · exact guarded
      · rename_i holders granted
        exact guarded.lock json process _ .exclusive holders granted fun held => ⟨held,trivial⟩
  | storing call stage =>
    rw [now] at own
    obtain ⟨owned,before⟩ := own
    have keeps := keeps_store call move before
    dsimp only
    split
    · rename_i next reached
      exact guarded.stored json process call owned _ keeps _ ⟨owned,keeps.stage next reached⟩
    · have released := (guarded.stored json process call owned _ keeps .idle trivial).unlock json process .idle trivial
      simpa only [setTask,update_idem] using released
  | reading lookup =>
    rw [now] at own
    cases lookup with
    | none => exact guarded
    | some looked =>
      obtain ⟨shared,same,found⟩ := own
      refine guarded.same json process _ ⟨shared,same,?_⟩
      rw [same]
      exact looked_step json found

theorem guarded_step (state : State) (event : Event) (guarded : Guarded json state) :
    Guarded json (step json state event) := by
  cases event with
  | start process pid =>
    simp only [step]
    split
    · exact guarded.task json process .idle state.holders _ state.calls guarded.excluding (fun _ _ _ => id)
        (fun other apart => update_of_ne apart _ _) trivial
    · exact guarded
  | crash process => exact guarded.unlock json process .absent trivial
  | store process metadata image vmlinux =>
    simp only [step]
    split
    · exact guarded.task json process _ state.holders state.pids _ guarded.excluding (fun _ _ _ => id)
        (fun _ _ => rfl) trivial
    · exact guarded
  | acquireShared process =>
    simp only [step]
    split
    · rename_i holders _ granted
      exact guarded.lock json process _ .shared holders granted id
    · exact guarded
  | lookup process =>
    have own := guarded.tasks process
    simp only [step]
    split
    · rename_i lookup now
      rw [now] at own
      have shared : (process,Mode.shared) ∈ state.holders := by
        cases lookup with
        | none => exact own
        | some looked => exact own.1
      exact guarded.same json process _ ⟨shared,rfl,trivial⟩
    · exact guarded
  | release process =>
    simp only [step]
    split
    · exact guarded.unlock json process .idle trivial
    · exact guarded
  | advance process move => exact guarded_advance json guarded

/-- In every interleaving, from an empty entry and any leftovers of earlier runs. -/
theorem cache_entries_never_torn (tmp : Nat → Option Dir) (events : List Event) :
    NeverTorn json (run (step json) { fs := { tmp := tmp } } events) :=
  guarded_torn json (run_invariant (step json) (Guarded json) (guarded_step json) _ events (guarded_initial json))

end

def plainMetadata : KernelMetadata := ⟨none,"tarball","x86_64","bzImage",none,"",none,none,false,false,none,none⟩

def plainJson : Json := ⟨fun _ => [],fun _ => some plainMetadata⟩

example :
    let store : List Event := [.start 0 7,.store 0 plainMetadata [1] none] ++ replicate 13 (.advance 0 .go)
    let read : List Event := [.start 1 8,.acquireShared 1,.lookup 1] ++ replicate 3 (.advance 1 .go)
    (match (run (step plainJson) {} (store ++ read)).tasks 1 with
    | .reading (some (.done found,_)) => found
    | _ => none) = some ⟨plainMetadata⟩ := by
  decide +kernel

end Ktstr.CacheEntries
