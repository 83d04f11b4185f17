import Ktstr.Library.Runs
import Ktstr.Source.SidecarDir

/-! Sidecars of one run: complete at every moment, but a process that first gets the lock after another has stored a result
clears that result away. -/
namespace Ktstr.SidecarRuns
open Std Library.Text Library.Runs Source.SidecarDir Function

/-! File names -/

section
variable {π : Type} (call : Call π)

theorem path_is_sidecar : isSidecarFilename call.path := by
  have whole : call.path = String.ofList
      ((call.testName ++ "-" ++ hex16 call.variantHash ++ ".ktstr").toList ++ '.'::"json".toList) := by
    rw [← String.toList_inj]
    simp [Call.path]
  have stem : String.ofList (call.testName ++ "-" ++ hex16 call.variantHash ++ ".ktstr").toList ≠ "" := by
    simp
  have marked : contains call.path ".ktstr." := by
    rw [contains,occurs_iff]
    refine ⟨(call.testName ++ "-" ++ hex16 call.variantHash).toList,"json".toList,?_⟩
    simp [Call.path]
  rw [isSidecarFilename,extension,whole,rsplitOnce_last _ _ (by decide),← whole,marked]
  simp only [stem]
  decide

theorem staging_not_sidecar : isSidecarFilename call.staging = false := by
  have whole : call.staging = String.ofList
      ((call.path ++ ".tmp." ++ toString call.pid).toList ++ '.'::call.runId.text.toList) := by
    rw [← String.toList_inj]
    simp [Call.staging]
  have plain : '.' ∉ call.runId.text.toList := by
    simp only [RunId.text,String.toList_append,List.mem_append,not_or]
    refine ⟨⟨call.runId.plain,by decide⟩,fun member => ?_⟩
    exact absurd (isDigit_of_mem_numeral _ _ member) (by decide)
  have dashed : call.runId.text ≠ "json" := by
    intro same
    have dash : '-' ∈ call.runId.text.toList := by simp [RunId.text]
    rw [same] at dash
    exact absurd dash (by decide)
  rw [isSidecarFilename,extension,whole,rsplitOnce_last _ _ plain,Bool.and_eq_false_imp,decide_eq_true_eq]
  intro named
  simp only [String.ofList_toList] at named
  split at named
  · cases named
  · exact absurd (Option.some.inj named) dashed

theorem staging_ne {name : String} (sidecar : isSidecarFilename name) : call.staging ≠ name := by
  rintro rfl
  rw [staging_not_sidecar] at sidecar
  cases sidecar

end

/-! What a step can do -/

def Critical : Phase → Prop
  | .idle | .waiting | .returned _ => False
  | _ => True

def Stored : Phase → Prop
  | .closing true | .returned true => True
  | _ => False

section
variable {π ι : Type} (disk : Disk π) (calls : ι → Call π)

def StagedBy (call : Call π) (dir : ExtTreeMap String Node) : Phase → Prop
  | .writing written => dir[call.staging]? = some (.file (call.json.take written))
  | .staged => dir[call.staging]? = some (.file call.json)
  | _ => True

structure Inv (world : World π ι) : Prop where
  alone : ∀ id, Critical (world.phase id) → world.lock = some id
  staged : ∀ id, StagedBy (calls id) world.dir (world.phase id)

variable {calls} {world after : World π ι} {id : ι}

variable (call : Call π) (dir : ExtTreeMap String Node)

theorem stagedBy_outside {phase : Phase} (outside : ¬ Critical phase) : StagedBy call dir phase := by
  cases phase <;> first | trivial | exact absurd trivial outside

theorem Inv.others (inv : Inv calls world) (id other : ι) (inside : Critical (world.phase id)) (apart : other ≠ id) :
    ¬ Critical (world.phase other) := by
  intro both
  have same := (inv.alone id inside).symm.trans (inv.alone other both)
  exact apart (Option.some.inj same).symm

theorem inv_inside (others : ∀ other, other ≠ id → after.phase other = world.phase other)
    (outside : ∀ other, other ≠ id → ¬ Critical (world.phase other)) (held : Critical (after.phase id) → after.lock = some id)
    (staged : StagedBy (calls id) after.dir (after.phase id)) : Inv calls after := by
  constructor
  · intro other inside
    by_cases here : other = id
    · subst here
      exact held inside
    · rw [others other here] at inside
      exact absurd inside (outside other here)
  · intro other
    by_cases here : other = id
    · subst here
      exact staged
    · rw [others other here]
      exact stagedBy_outside _ _ (outside other here)

theorem inv_outside (inv : Inv calls world)
    (others : ∀ other, other ≠ id → after.phase other = world.phase other) (lock : after.lock = world.lock)
    (dir : after.dir = world.dir) (outside : ¬ Critical (after.phase id)) : Inv calls after := by
  constructor
  · intro other inside
    by_cases here : other = id
    · subst here
      exact absurd inside outside
    · rw [others other here] at inside
      rw [lock]
      exact inv.alone other inside
  · intro other
    by_cases here : other = id
    · subst here
      exact stagedBy_outside _ _ outside
    · rw [others other here,dir]
      exact inv.staged other

theorem insert_staging {node : Node} (name : String) (sidecar : isSidecarFilename name) :
    (dir.insert call.staging node)[name]? = dir[name]? := by
  rw [ExtTreeMap.getElem?_insert,if_neg]
  rw [LawfulEqCmp.compare_eq_iff_eq]
  exact staging_ne call sidecar

theorem erase_staging {name : String} (sidecar : isSidecarFilename name) :
    (dir.erase call.staging)[name]? = dir[name]? := by
  rw [ExtTreeMap.getElem?_erase,if_neg]
  rw [LawfulEqCmp.compare_eq_iff_eq]
  exact staging_ne call sidecar

theorem rename_staged {after : ExtTreeMap String Node} (staged : dir[call.staging]? = some (Node.file call.json))
    (renamed : rename dir call.staging call.path = some after) (name : String)
    (sidecar : isSidecarFilename name) :
    after[name]? = if name = call.path then some (Node.file call.json) else dir[name]? := by
  unfold rename at renamed
  rw [staged] at renamed
  split at renamed
  · cases renamed
  · cases renamed
  · next node _ found _ =>
    cases found
    obtain rfl := Option.some.inj renamed
    rw [ExtTreeMap.getElem?_insert,erase_staging call dir sidecar]
    refine if_congr ?_ rfl rfl
    rw [LawfulEqCmp.compare_eq_iff_eq,eq_comm]

variable (calls) [DecidableEq π]

def SameSidecars (before after : World π ι) : Prop :=
  ∀ name, isSidecarFilename name = true → after.dir[name]? = before.dir[name]?

inductive Move (before : World π ι) (id : ι) (after : World π ι) : Prop
  | plain (dir : SameSidecars before after) (cleared : after.cleared = before.cleared)
      (before_out : ∀ rest, before.phase id ≠ .sweeping rest) (after_out : ∀ rest, after.phase id ≠ .sweeping rest)
      (stored : Stored (after.phase id) ↔ Stored (before.phase id))
  | start (locked : before.phase id = .locked) (first : (calls id).process ∉ before.cleared)
      (lists : disk.lists (calls id).process = true) (dir : after.dir = before.dir) (cleared : after.cleared = before.cleared)
      (phase : after.phase id = .sweeping (disk.order (calls id).process before.dir.keys))
  | entry (name : String) (rest : List String) (sweeping : before.phase id = .sweeping (name::rest))
      (dir : after.dir = sweepEntry disk (calls id).process before.dir name) (cleared : after.cleared = before.cleared)
      (phase : after.phase id = .sweeping rest)
  | finish (sweeping : before.phase id = .sweeping []) (dir : after.dir = before.dir)
      (cleared : after.cleared = insert (calls id).process before.cleared) (phase : after.phase id = .swept)
  | skip (locked : before.phase id = .locked) (lists : disk.lists (calls id).process = false) (dir : after.dir = before.dir)
      (cleared : after.cleared = insert (calls id).process before.cleared) (phase : after.phase id = .swept)
  | store (staged : before.phase id = .staged)
      (dir : ∀ name, isSidecarFilename name = true →
        after.dir[name]? = if name = (calls id).path then some (.file (calls id).json) else before.dir[name]?)
      (cleared : after.cleared = before.cleared) (phase : after.phase id = .closing true)

private structure Outcome (before : World π ι) (id : ι) (after : World π ι) : Prop where
  others : ∀ other, other ≠ id → after.phase other = before.phase other
  inv : Inv calls after
  move : Move disk calls before id after

variable {calls} [DecidableEq ι]

section
variable {disk} {phase next : Phase} (inv : Inv calls world) (at_ : world.phase id = phase)
  (moved : after.phase = Function.update world.phase id next)

include moved in
omit [DecidableEq π] in
theorem moved_others (other : ι) (apart : other ≠ id) : after.phase other = world.phase other := by
  rw [moved,update_of_ne apart]

include at_ moved in
theorem plain_move (dir : SameSidecars world after) (cleared : after.cleared = world.cleared)
    (quiet : ∀ rest, phase ≠ .sweeping rest ∧ next ≠ .sweeping rest) (stored : Stored next ↔ Stored phase) :
    Move disk calls world id after := by
  have own : after.phase id = next := by rw [moved,update_self]
  refine .plain dir cleared ?_ ?_ ?_
  · rw [at_]
    exact fun rest => (quiet rest).1
  · rw [own]
    exact fun rest => (quiet rest).2
  · rw [at_,own]
    exact stored

include inv at_ moved

theorem outcome_inside (inside : Critical phase) (held : Critical next → after.lock = world.lock)
    (staged : StagedBy (calls id) after.dir next) (move : Move disk calls world id after) :
    Outcome disk calls world id after := by
  rw [← at_] at inside
  have own : after.phase id = next := by rw [moved,update_self]
  refine ⟨moved_others moved,inv_inside (moved_others moved) (fun other => inv.others id other inside) ?_ ?_,move⟩
  · rw [own]
    exact fun within => (held within).trans (inv.alone id inside)
  · rw [own]
    exact staged

theorem outcome_plain (inside : Critical phase) (held : Critical next → after.lock = world.lock)
    (staged : StagedBy (calls id) after.dir next) (dir : SameSidecars world after) (cleared : after.cleared = world.cleared)
    (quiet : ∀ rest, phase ≠ .sweeping rest ∧ next ≠ .sweeping rest) (stored : Stored next ↔ Stored phase) :
    Outcome disk calls world id after :=
  outcome_inside inv at_ moved inside held staged (plain_move at_ moved dir cleared quiet stored)

omit moved in
theorem outcome_turns (inside : Critical phase) {next : Phase} (staged : StagedBy (calls id) world.dir next)
    (quiet : ∀ rest, phase ≠ .sweeping rest ∧ next ≠ .sweeping rest) (stored : Stored next ↔ Stored phase) :
    Outcome disk calls world id (world.to id next) :=
  outcome_plain inv at_ rfl inside (fun _ => rfl) staged (fun _ _ => rfl) rfl quiet stored

theorem outcome_outside (lock : after.lock = world.lock) (dir : after.dir = world.dir)
    (outside : ¬ Critical next) (cleared : after.cleared = world.cleared)
    (quiet : ∀ rest, phase ≠ .sweeping rest ∧ next ≠ .sweeping rest) (stored : Stored next ↔ Stored phase) :
    Outcome disk calls world id after := by
  refine ⟨moved_others moved,inv_outside inv (moved_others moved) lock dir ?_,
    plain_move at_ moved (fun _ _ => by rw [dir]) cleared quiet stored⟩
  rw [moved,Function.update_self]
  exact outside

end

theorem step_outcome (inv : Inv calls world) (event : Event ι) :
    Outcome disk calls world event.call (step disk calls world event) := by
  have staged := inv.staged event.call
  have own (phase : Phase) : (world.to event.call phase).phase event.call = phase := Function.update_self ..
  unfold step
  cases at_ : world.phase event.call with
  | idle =>
    simp only [advance]
    split_ifs <;> exact outcome_outside inv at_ rfl rfl rfl id rfl (by simp) Iff.rfl
  | waiting =>
    simp only [advance]
    split_ifs with fails free
    · exact outcome_outside inv at_ rfl rfl rfl id rfl (by simp) Iff.rfl
    · refine ⟨moved_others rfl,inv_inside (moved_others rfl) ?_ (fun _ => rfl) ?_,
        plain_move at_ rfl (fun _ _ => rfl) rfl (by simp) Iff.rfl⟩
      · intro other _ inside
        rw [inv.alone other inside] at free
        cases free
      · rw [own]
        trivial
    · exact ⟨fun _ _ => rfl,inv,.plain (fun _ _ => rfl) rfl (by simp [at_]) (by simp [at_]) Iff.rfl⟩
  | locked =>
    simp only [advance,preClear]
    split_ifs with before lists
    · exact outcome_turns inv at_ trivial trivial (by simp) Iff.rfl
    · exact outcome_inside inv at_ rfl trivial (fun _ => rfl) trivial (.start at_ before lists rfl rfl (own _))
    · exact outcome_inside inv at_ rfl trivial (fun _ => rfl) trivial (.skip at_ (by simpa using lists) rfl rfl (own _))
  | sweeping rest =>
    cases rest with
    | nil => exact outcome_inside inv at_ rfl trivial (fun _ => rfl) trivial (.finish at_ rfl rfl (own _))
    | cons name rest =>
      exact outcome_inside inv at_ rfl trivial (fun _ => rfl) trivial (.entry name rest at_ rfl rfl (own _))
  | swept =>
    simp only [advance]
    split_ifs <;> exact outcome_turns inv at_ trivial trivial (by simp) Iff.rfl
  | opening =>
    simp only [advance]
    split_ifs
    · exact outcome_turns inv at_ trivial trivial (by simp) Iff.rfl
    · refine outcome_plain inv at_ rfl trivial (fun _ => rfl) ?_ (insert_staging _ _) rfl (by simp) Iff.rfl
      simp [StagedBy]
  | writing written =>
    simp only [advance]
    split_ifs with fails whole
    · exact outcome_turns inv at_ trivial trivial (by simp) Iff.rfl
    · refine outcome_plain inv at_ rfl trivial (fun _ => rfl) ?_ (insert_staging _ _) rfl (by simp) Iff.rfl
      simp [StagedBy,whole]
    · refine outcome_plain inv at_ rfl trivial (fun _ => rfl) ?_ (insert_staging _ _) rfl (by simp) Iff.rfl
      simp [StagedBy]
  | staged =>
    rw [at_] at staged
    simp only [advance]
    split
    · exact outcome_turns inv at_ trivial trivial (by simp) Iff.rfl
    · next dir renamed =>
      split at renamed
      · cases renamed
      · exact outcome_inside inv at_ rfl trivial (fun _ => rfl) trivial
          (.store at_ (rename_staged _ _ staged renamed) rfl (own _))
  | unstaging =>
    refine outcome_plain inv at_ rfl trivial (fun _ => rfl) trivial ?_ rfl (by simp) Iff.rfl
    intro name sidecar
    simp only [advance]
    split_ifs
    · rfl
    · exact erase_staging _ _ sidecar
  | closing ok =>
    refine outcome_plain inv at_ rfl trivial (fun within => within.elim) trivial (fun _ _ => rfl) rfl (by simp) ?_
    cases ok <;> rfl
  | returned ok => exact ⟨fun _ _ => rfl,inv,.plain (fun _ _ => rfl) rfl (by simp [at_]) (by simp [advance,at_]) Iff.rfl⟩

end

/-! Where the sidecars of the directory are from -/

section
variable {π ι : Type} (disk : Disk π) (calls : ι → Call π)

variable (process : π) (dir : ExtTreeMap String Node) (name : String)

variable {disk process dir name}

theorem sweepEntry_other {other : String} (apart : name ≠ other) :
    (sweepEntry disk process dir name)[other]? = dir[other]? := by
  unfold sweepEntry
  split
  · rw [ExtTreeMap.getElem?_erase,if_neg]
    rw [LawfulEqCmp.compare_eq_iff_eq]
    exact apart
  · rfl

theorem sweepEntry_kept (kept : disk.removes process name = false) : sweepEntry disk process dir name = dir := by
  rw [sweepEntry,kept,Bool.and_false,if_neg Bool.false_ne_true]

theorem sweepEntry_file {content : List Char} (sidecar : isSidecarFilename name)
    (found : (sweepEntry disk process dir name)[name]? = some (Node.file content)) :
    disk.removes process name = false ∧ dir[name]? = some (Node.file content) := by
  cases removes : disk.removes process name with
  | false =>
    rw [sweepEntry_kept removes] at found
    exact ⟨rfl,found⟩
  | true =>
    exfalso
    unfold sweepEntry at found
    split at found
    · simp at found
    · next spared =>
      refine spared ?_
      simp [isFile,found,sidecar,removes]

theorem sweepEntry_absent {target : String} (sidecar : isSidecarFilename target)
    (gone : isFile dir target = false ∨ name = target ∧ disk.removes process target) :
    isFile (sweepEntry disk process dir name) target = false := by
  by_cases here : name = target
  · subst here
    cases found : (sweepEntry disk process dir name)[name]? with
    | none => simp [isFile,found]
    | some node =>
      cases node with
      | folder => simp [isFile,found]
      | file content =>
        obtain ⟨kept,before⟩ := sweepEntry_file sidecar found
        rcases gone with absent | ⟨_,removes⟩
        · simp [isFile,before] at absent
        · rw [kept] at removes
          cases removes
  · rw [isFile,sweepEntry_other here]
    rcases gone with absent | ⟨same,_⟩
    · exact absent
    · exact absurd same here

variable (dir disk name process)

/-- Every sidecar is a result of this run or was there before and no sweep could remove it; what no sweep and no result
touched is still there. -/
structure Traced (dir : ExtTreeMap String Node) (world : World π ι) : Prop where
  known : ∀ name content, isSidecarFilename name = true → world.dir[name]? = some (.file content) →
    (∃ id, Stored (world.phase id) ∧ (calls id).path = name ∧ (calls id).json = content) ∨
      (dir[name]? = some (.file content) ∧ ∀ process ∈ world.cleared, disk.lists process = true →
        disk.removes process name = false)
  passed : ∀ id rest, world.phase id = .sweeping rest → disk.lists (calls id).process = true ∧
    ∀ name content, isSidecarFilename name = true → world.dir[name]? = some (.file content) → name ∉ rest →
      disk.removes (calls id).process name = false
  untouched : ∀ name content, isSidecarFilename name = true → dir[name]? = some (Node.file content) →
    (∀ id, Stored (world.phase id) → (calls id).path ≠ name) →
    (∀ process ∈ world.cleared, disk.lists process = true → disk.removes process name = false) →
    (∀ id rest, world.phase id = .sweeping rest → disk.removes (calls id).process name = false) →
      world.dir[name]? = some (.file content)

end

section
variable {π ι : Type} {disk : Disk π} {calls : ι → Call π} {world after : World π ι} {id : ι}

theorem sweeping_alone (inv : Inv calls world) (inside : Critical (world.phase id)) {other : ι}
    {rest : List String} (sweeping : world.phase other = .sweeping rest) : other = id := by
  by_contra apart
  refine inv.others id other inside apart ?_
  rw [sweeping]
  trivial

variable (others : ∀ other, other ≠ id → after.phase other = world.phase other)
include others

theorem stored_congr (same : Stored (after.phase id) ↔ Stored (world.phase id)) (other : ι) :
    Stored (after.phase other) ↔ Stored (world.phase other) := by
  by_cases here : other = id
  · subst here
    exact same
  · rw [others other here]

theorem stored_unsaved {phase next : Phase} (before : world.phase id = phase) (now : after.phase id = next)
    (first : ¬ Stored phase) (second : ¬ Stored next) (other : ι) : Stored (after.phase other) ↔ Stored (world.phase other) :=
  stored_congr others (by rw [before,now]; exact iff_of_false second first) other

theorem sweeping_own (inv : Inv calls world) (inside : Critical (world.phase id)) {other : ι} {rest : List String}
    (sweeping : after.phase other = .sweeping rest) : other = id := by
  by_contra apart
  rw [others other apart] at sweeping
  exact apart (sweeping_alone inv inside sweeping)

theorem none_sweeping (inv : Inv calls world) (inside : Critical (world.phase id)) {next : Phase}
    (now : after.phase id = next) (quiet : ∀ rest, next ≠ .sweeping rest) (other : ι) (rest : List String) :
    after.phase other ≠ .sweeping rest := by
  intro sweeping
  obtain rfl := sweeping_own others inv inside sweeping
  exact quiet rest (now.symm.trans sweeping)

omit others in
theorem none_swept (inv : Inv calls world) {phase : Phase} (before : world.phase id = phase) (inside : Critical phase)
    (quiet : ∀ rest, phase ≠ .sweeping rest) {other : ι} {rest : List String} : world.phase other ≠ .sweeping rest :=
  none_sweeping (fun _ _ => rfl) inv (before ▸ inside) before quiet other rest

variable [DecidableEq π]

omit others in
theorem traced_cleared {dir : ExtTreeMap String Node} (traced : Traced disk calls dir world) (same : after.dir = world.dir)
    (cleared : after.cleared = insert (calls id).process world.cleared)
    (stored : ∀ other, Stored (after.phase other) ↔ Stored (world.phase other))
    (quiet : ∀ other rest, after.phase other ≠ .sweeping rest)
    (spared : disk.lists (calls id).process → ∀ name content, isSidecarFilename name →
      world.dir[name]? = some (Node.file content) → disk.removes (calls id).process name = false)
    (sweeper : ∀ other rest, world.phase other = .sweeping rest → other = id ∧ disk.lists (calls id).process) :
    Traced disk calls dir after := by
  constructor
  · intro name content sidecar found
    rw [same] at found
    simp only [stored,cleared,Finset.forall_mem_insert]
    rcases traced.known name content sidecar found with result | ⟨old,before⟩
    · exact Or.inl result
    · exact Or.inr ⟨old,fun lists => spared lists name content sidecar found,before⟩
  · exact fun other rest at_ => absurd at_ (quiet other rest)
  · intro name content sidecar old unsaved unswept _
    simp only [stored,cleared,Finset.forall_mem_insert] at unsaved unswept
    rw [same]
    refine traced.untouched name content sidecar old unsaved unswept.2 fun other rest at_ => ?_
    obtain ⟨rfl,lists⟩ := sweeper other rest at_
    exact unswept.1 lists

theorem traced_move {dir : ExtTreeMap String Node} (orders : ∀ process names, (disk.order process names).Perm names)
    (inv : Inv calls world) (traced : Traced disk calls dir world) (move : Move disk calls world id after) :
    Traced disk calls dir after := by
  cases move with
  | plain same cleared before_out after_out stored =>
    have stored := stored_congr others stored
    have sweeping other rest : after.phase other = .sweeping rest ↔ world.phase other = .sweeping rest := by
      by_cases here : other = id
      · subst here
        exact iff_of_false (after_out rest) (before_out rest)
      · rw [others other here]
    constructor
    · intro name content sidecar found
      rw [same name sidecar] at found
      simpa only [stored,cleared] using traced.known name content sidecar found
    · intro other rest at_
      obtain ⟨lists,passed⟩ := traced.passed other rest ((sweeping other rest).mp at_)
      refine ⟨lists,fun name content sidecar found => ?_⟩
      rw [same name sidecar] at found
      exact passed name content sidecar found
    · intro name content sidecar old unsaved unswept still
      rw [same name sidecar]
      simp only [stored,cleared,sweeping] at unsaved unswept still
      exact traced.untouched name content sidecar old unsaved unswept still
  | start locked first lists same cleared phase =>
    have stored := stored_unsaved others locked phase nofun nofun
    constructor
    · intro name content sidecar found
      rw [same] at found
      simpa only [stored,cleared] using traced.known name content sidecar found
    · intro other rest at_
      obtain rfl := sweeping_own others inv (by rw [locked]; trivial) at_
      refine ⟨lists,fun name content _ found unlisted => absurd ?_ unlisted⟩
      rw [phase] at at_
      obtain rfl := Phase.sweeping.inj at_
      rw [(orders _ _).mem_iff,ExtTreeMap.mem_keys]
      rw [same] at found
      exact ExtTreeMap.mem_iff_isSome_getElem?.mpr (by rw [found]; rfl)
    · intro name content sidecar old unsaved unswept _
      rw [same]
      simp only [stored,cleared] at unsaved unswept
      exact traced.untouched name content sidecar old unsaved unswept fun other rest at_ =>
        absurd at_ (none_swept inv locked trivial (by simp))
  | entry name rest sweeping swept cleared phase =>
    have stored := stored_unsaved others sweeping phase nofun nofun
    obtain ⟨lists,passed⟩ := traced.passed id _ sweeping
    -- Whatever file is there after an entry was there before.
    have before other content (sidecar : isSidecarFilename other)
        (found : after.dir[other]? = some (Node.file content)) : world.dir[other]? = some (Node.file content) := by
      rw [swept] at found
      by_cases here : name = other
      · subst here
        exact (sweepEntry_file sidecar found).2
      · rwa [sweepEntry_other here] at found
    constructor
    · intro other content sidecar found
      simpa only [stored,cleared] using traced.known other content sidecar (before other content sidecar found)
    · intro other remaining at_
      obtain rfl := sweeping_own others inv (by rw [sweeping]; trivial) at_
      rw [phase] at at_
      obtain rfl := Phase.sweeping.inj at_
      refine ⟨lists,fun other content sidecar found unlisted => ?_⟩
      by_cases here : name = other
      · subst here
        rw [swept] at found
        exact (sweepEntry_file sidecar found).1
      · refine passed other content sidecar (before other content sidecar found) fun member => ?_
        rcases List.mem_cons.mp member with same | later
        · exact here same.symm
        · exact unlisted later
    · intro other content sidecar old unsaved unswept still
      simp only [stored,cleared] at unsaved unswept
      have spared := still id rest phase
      have held := traced.untouched other content sidecar old unsaved unswept fun sweeper remaining at_ => by
        rw [sweeping_alone inv (by rw [sweeping]; trivial) at_]
        exact spared
      rw [swept]
      by_cases here : name = other
      · subst here
        rw [sweepEntry_kept spared]
        exact held
      · rw [sweepEntry_other here]
        exact held
  | finish sweeping same cleared phase =>
    have inside : Critical (world.phase id) := by rw [sweeping]; trivial
    obtain ⟨lists,passed⟩ := traced.passed id _ sweeping
    refine traced_cleared traced same cleared (stored_unsaved others sweeping phase nofun nofun)
      (none_sweeping others inv inside phase (by simp)) ?_ fun other rest at_ => ⟨sweeping_alone inv inside at_,lists⟩
    exact fun _ name content sidecar found => passed name content sidecar found List.not_mem_nil
  | skip locked lists same cleared phase =>
    refine traced_cleared traced same cleared (stored_unsaved others locked phase nofun nofun)
      (none_sweeping others inv (by rw [locked]; trivial) phase (by simp)) ?_ ?_
    · intro listed
      rw [lists] at listed
      cases listed
    · exact fun other rest at_ => absurd at_ (none_swept inv locked trivial (by simp))
  | store staged placed cleared phase =>
    have grows other (saved : Stored (world.phase other)) : Stored (after.phase other) := by
      by_cases here : other = id
      · rw [here,phase]
        trivial
      · rw [others other here]
        exact saved
    constructor
    · intro name content sidecar found
      rw [placed name sidecar] at found
      simp only [cleared]
      split at found
      · next here =>
        refine Or.inl ⟨id,by rw [phase]; trivial,here.symm,?_⟩
        exact Node.file.inj (Option.some.inj found)
      · rcases traced.known name content sidecar found with ⟨other,saved,rest⟩ | old
        · exact Or.inl ⟨other,grows other saved,rest⟩
        · exact Or.inr old
    · exact fun other rest at_ =>
        absurd at_ (none_sweeping others inv (by rw [staged]; trivial) phase (by simp) other rest)
    · intro name content sidecar old unsaved unswept _
      simp only [cleared] at unswept
      rw [placed name sidecar,if_neg fun here => unsaved id (by rw [phase]; trivial) here.symm]
      exact traced.untouched name content sidecar old (fun other saved => unsaved other (grows other saved)) unswept
        fun other rest at_ => absurd at_ (none_swept inv staged trivial (by simp))

/-! Results of this run -/

structure Safe (disk : Disk π) (calls : ι → Call π) (world : World π ι) : Prop where
  results : ∀ id, Stored (world.phase id) → world.dir[(calls id).path]? = some (.file (calls id).json)
  spared : ∀ id rest, world.phase id = .sweeping rest → ∀ other, Stored (world.phase other) →
    disk.removes (calls id).process (calls other).path = false

def Lost (disk : Disk π) (calls : ι → Call π) (target : ι) (world : World π ι) : Prop :=
  Stored (world.phase target) ∧ (isFile world.dir (calls target).path = false ∨
    ∃ id rest, world.phase id = .sweeping rest ∧ (calls target).path ∈ rest ∧
      disk.removes (calls id).process (calls target).path = true)

theorem safe_move (distinct : ∀ first second, (calls first).path = (calls second).path → first = second)
    (inv : Inv calls world) (safe : Safe disk calls world) (move : Move disk calls world id after)
    (spares : world.phase id = .locked → (calls id).process ∉ world.cleared → disk.lists (calls id).process →
      ∀ other, Stored (world.phase other) → disk.removes (calls id).process (calls other).path = false) :
    Safe disk calls after := by
  have kept (same : after.dir = world.dir) (stored : ∀ other, Stored (after.phase other) ↔ Stored (world.phase other))
      (other : ι) (saved : Stored (after.phase other)) :
      after.dir[(calls other).path]? = some (.file (calls other).json) := by
    rw [same]
    exact safe.results other ((stored other).mp saved)
  cases move with
  | plain same cleared before_out after_out stored =>
    have stored := stored_congr others stored
    constructor
    · intro other saved
      rw [same _ (path_is_sidecar _)]
      exact safe.results other ((stored other).mp saved)
    · intro sweeper rest at_ other saved
      have apart : sweeper ≠ id := by
        rintro rfl
        exact after_out rest at_
      rw [others sweeper apart] at at_
      exact safe.spared sweeper rest at_ other ((stored other).mp saved)
  | start locked first lists same cleared phase =>
    have stored := stored_unsaved others locked phase nofun nofun
    refine ⟨kept same stored,fun sweeper rest at_ other saved => ?_⟩
    rw [sweeping_own others inv (by rw [locked]; trivial) at_]
    exact spares locked first lists other ((stored other).mp saved)
  | entry name rest sweeping swept cleared phase =>
    have stored := stored_unsaved others sweeping phase nofun nofun
    have spared := safe.spared id _ sweeping
    constructor
    · intro other saved
      have saved := (stored other).mp saved
      rw [swept]
      by_cases here : name = (calls other).path
      · rw [sweepEntry_kept (here ▸ spared other saved)]
        exact safe.results other saved
      · rw [sweepEntry_other here]
        exact safe.results other saved
    · intro sweeper rest at_ other saved
      rw [sweeping_own others inv (by rw [sweeping]; trivial) at_]
      exact spared other ((stored other).mp saved)
  | finish sweeping same cleared phase =>
    refine ⟨kept same (stored_unsaved others sweeping phase nofun nofun),fun sweeper rest at_ => ?_⟩
    exact absurd at_ (none_sweeping others inv (by rw [sweeping]; trivial) phase (by simp) sweeper rest)
  | skip locked lists same cleared phase =>
    refine ⟨kept same (stored_unsaved others locked phase nofun nofun),fun sweeper rest at_ => ?_⟩
    exact absurd at_ (none_sweeping others inv (by rw [locked]; trivial) phase (by simp) sweeper rest)
  | store staged placed cleared phase =>
    constructor
    · intro other saved
      rw [placed _ (path_is_sidecar _)]
      by_cases here : other = id
      · rw [here,if_pos rfl]
      · rw [if_neg fun same => here (distinct _ _ same)]
        rw [others other here] at saved
        exact safe.results other saved
    · exact fun sweeper rest at_ =>
        absurd at_ (none_sweeping others inv (by rw [staged]; trivial) phase (by simp) sweeper rest)

theorem lost_move (distinct : ∀ first second, (calls first).path = (calls second).path → first = second)
    (inv : Inv calls world) {target : ι} (lost : Lost disk calls target world) (move : Move disk calls world id after) :
    Lost disk calls target after := by
  obtain ⟨saved,gone⟩ := lost
  have sidecar := path_is_sidecar (calls target)
  have keep {phase : Phase} (before : world.phase id = phase) (first : ¬ Stored phase) :
      target ≠ id ∧ Stored (after.phase target) := by
    have apart : target ≠ id := by
      rintro rfl
      rw [before] at saved
      exact first saved
    rw [others target apart]
    exact ⟨apart,saved⟩
  have unswept {phase : Phase} (before : world.phase id = phase) (inside : Critical phase)
      (other : ∀ rest, phase ≠ .sweeping rest) : isFile world.dir (calls target).path = false := by
    rcases gone with absent | ⟨sweeper,rest,at_,_⟩
    · exact absent
    · exact absurd at_ (none_swept inv before inside other)
  cases move with
  | plain same cleared before_out after_out stored =>
    refine ⟨(stored_congr others stored target).mpr saved,?_⟩
    rw [isFile,same _ sidecar]
    rcases gone with absent | ⟨sweeper,rest,at_,doomed⟩
    · exact Or.inl absent
    · have apart : sweeper ≠ id := by
        rintro rfl
        exact before_out rest at_
      exact Or.inr ⟨sweeper,rest,by rw [others sweeper apart]; exact at_,doomed⟩
  | start locked first lists same cleared phase =>
    rw [Lost,same]
    exact ⟨(keep locked nofun).2,Or.inl (unswept locked trivial (by simp))⟩
  | entry name rest sweeping swept cleared phase =>
    refine ⟨(keep sweeping nofun).2,?_⟩
    rcases gone with absent | ⟨sweeper,remaining,at_,listed,removes⟩
    · left
      rw [swept]
      exact sweepEntry_absent sidecar (Or.inl absent)
    · obtain rfl := sweeping_alone inv (by rw [sweeping]; trivial) at_
      rw [sweeping] at at_
      obtain rfl := Phase.sweeping.inj at_
      rcases List.mem_cons.mp listed with here | later
      · left
        rw [swept]
        exact sweepEntry_absent sidecar (Or.inr ⟨here.symm,removes⟩)
      · exact Or.inr ⟨_,rest,phase,later,removes⟩
  | finish sweeping same cleared phase =>
    rw [Lost,same]
    refine ⟨(keep sweeping nofun).2,Or.inl ?_⟩
    rcases gone with absent | ⟨sweeper,rest,at_,listed,_⟩
    · exact absent
    · obtain rfl := sweeping_alone inv (by rw [sweeping]; trivial) at_
      rw [sweeping] at at_
      obtain rfl := Phase.sweeping.inj at_
      cases listed
  | skip locked lists same cleared phase =>
    rw [Lost,same]
    exact ⟨(keep locked nofun).2,Or.inl (unswept locked trivial (by simp))⟩
  | store staged placed cleared phase =>
    obtain ⟨apart,stored⟩ := keep staged nofun
    refine ⟨stored,Or.inl ?_⟩
    rw [isFile,placed _ sidecar,if_neg fun same => apart (distinct _ _ same)]
    exact unswept staged trivial (by simp)

end

/-! Whole runs -/

section
variable {π ι : Type} [DecidableEq π] [DecidableEq ι] (disk : Disk π) (calls : ι → Call π)

variable (dir : ExtTreeMap String Node)

def opened : World π ι := ⟨dir,none,∅,fun _ => .idle⟩

def Complete (complete : List Char → Prop) (world : World π ι) : Prop :=
  ∀ name content, isSidecarFilename name = true → world.dir[name]? = some (.file content) → complete content

/-- The directory holds the results of this run and no other sidecar. -/
structure Kept (world : World π ι) : Prop where
  results : ∀ id, world.phase id = .returned true → world.dir[(calls id).path]? = some (.file (calls id).json)
  fresh : ∀ name content, isSidecarFilename name = true → world.dir[name]? = some (.file content) →
    ∃ id, world.phase id = .returned true ∧ (calls id).path = name

/-- A process that begins to clear the directory leaves the results of the run that are there. -/
def Spares (world : World π ι) (event : Event ι) : Prop :=
  world.phase event.call = .locked → (calls event.call).process ∉ world.cleared →
    disk.lists (calls event.call).process = true → ∀ id, Stored (world.phase id) →
      disk.removes (calls event.call).process (calls id).path = false

/-- Each sidecar of an earlier run is replaced by a result, or a process of the run that clears the directory can remove it. -/
def Replaces (final : World π ι) : Prop :=
  ∀ name content, isSidecarFilename name = true → dir[name]? = some (Node.file content) →
    (∃ id, Stored (final.phase id) ∧ (calls id).path = name) ∨
      ∃ process ∈ final.cleared, disk.lists process = true ∧ disk.removes process name = true

variable {disk calls}

omit [DecidableEq ι] [DecidableEq π] in
theorem opened_inv : Inv calls (opened dir) := ⟨nofun,fun _ => trivial⟩

omit [DecidableEq ι] [DecidableEq π] in
theorem opened_traced : Traced disk calls dir (opened dir) := by
  refine ⟨fun name content _ found => Or.inr ⟨found,?_⟩,nofun,fun name content _ old _ _ _ => old⟩
  intro process member
  cases member

theorem run_traced (orders : ∀ process names, (disk.order process names).Perm names) {dir : ExtTreeMap String Node}
    {events : List (Event ι)} : Inv calls (run (step disk calls) (opened dir) events) ∧
      Traced disk calls dir (run (step disk calls) (opened dir) events) := by
  refine run_invariant (step disk calls) (fun world => Inv calls world ∧ Traced disk calls dir world) ?_ (opened dir) events
    ⟨opened_inv dir,opened_traced dir⟩
  rintro world event ⟨inv,traced⟩
  have outcome := step_outcome disk inv event
  exact ⟨outcome.inv,traced_move outcome.others orders inv traced outcome.move⟩

/-- Critical sections exclude each other, and what a call has staged stays as it wrote it. -/
theorem sections_exclude (events : List (Event ι)) :
    let world := run (step disk calls) (opened dir) events
    (∀ id other, Critical (world.phase id) → Critical (world.phase other) → id = other) ∧
      ∀ id, StagedBy (calls id) world.dir (world.phase id) := by
  have inv := run_invariant (step disk calls) (Inv calls) (fun _ event inv => (step_outcome disk inv event).inv) _ events
    (opened_inv dir)
  exact ⟨fun _ _ first second => Option.some.inj ((inv.alone _ first).symm.trans (inv.alone _ second)),inv.staged⟩

theorem lost_of_late (orders : ∀ process names, (disk.order process names).Perm names) {start : World π ι}
    {event : Event ι} (target : ι) (locked : start.phase event.call = .locked)
    (first : (calls event.call).process ∉ start.cleared) (lists : disk.lists (calls event.call).process)
    (saved : Stored (start.phase target))
    (removes : disk.removes (calls event.call).process (calls target).path) :
    Lost disk calls target (step disk calls start event) := by
  have stepped : step disk calls start event =
      start.to event.call (.sweeping (disk.order (calls event.call).process start.dir.keys)) := by
    rw [step,locked,advance,preClear,if_neg first,if_pos lists]
  have apart : target ≠ event.call := by
    rintro rfl
    rw [locked] at saved
    exact saved
  rw [stepped]
  refine ⟨by rwa [moved_others rfl target apart],?_⟩
  cases found : isFile start.dir (calls target).path with
  | false => exact Or.inl found
  | true =>
    refine Or.inr ⟨event.call,_,update_self ..,?_,removes⟩
    rw [(orders _ _).mem_iff,ExtTreeMap.mem_keys,ExtTreeMap.mem_iff_isSome_getElem?]
    unfold isFile at found
    split at found
    · next there => simp [there]
    · cases found

section
variable (distinct : ∀ first second, (calls first).path = (calls second).path → first = second)
include distinct

theorem run_safe {start : World π ι} {events : List (Event ι)} (inv : Inv calls start) (safe : Safe disk calls start)
    (spares : Throughout (step disk calls) (Spares disk calls) start events) :
    Safe disk calls (run (step disk calls) start events) := by
  refine (run_guarded (step disk calls) (Spares disk calls) (fun world => Inv calls world ∧ Safe disk calls world) ?_ start
    events spares ⟨inv,safe⟩).2
  rintro world event spares ⟨inv,safe⟩
  have outcome := step_outcome disk inv event
  exact ⟨outcome.inv,safe_move outcome.others distinct inv safe outcome.move spares⟩

theorem run_lost (target : ι) (start : World π ι) (events : List (Event ι)) (inv : Inv calls start)
    (lost : Lost disk calls target start) : Lost disk calls target (run (step disk calls) start events) := by
  refine (run_invariant (step disk calls) (fun world => Inv calls world ∧ Lost disk calls target world) ?_ start events
    ⟨inv,lost⟩).2
  rintro world event ⟨inv,lost⟩
  have outcome := step_outcome disk inv event
  exact ⟨outcome.inv,lost_move outcome.others distinct inv lost outcome.move⟩

theorem spares_or_lost (orders : ∀ process names, (disk.order process names).Perm names) (start : World π ι)
    (events : List (Event ι)) (inv : Inv calls start) :
    Throughout (step disk calls) (Spares disk calls) start events ∨
      ∃ target, Lost disk calls target (run (step disk calls) start events) := by
  induction events generalizing start with
  | nil => exact Or.inl trivial
  | cons event events ih =>
    by_cases spares : Spares disk calls start event
    · rcases ih (step disk calls start event) (step_outcome disk inv event).inv with rest | lost
      · exact Or.inl ⟨spares,rest⟩
      · exact Or.inr lost
    · right
      simp only [Spares,not_forall] at spares
      obtain ⟨locked,first,lists,target,saved,removes⟩ := spares
      refine ⟨target,run_lost distinct target _ events (step_outcome disk inv event).inv ?_⟩
      exact lost_of_late orders target locked first lists saved (by simpa using removes)

/-- One suite run of any processes, each making any calls: at every moment each sidecar is complete, and at the end the
directory holds exactly the results of the run, if and only if every process that clears the directory spares the results
stored before and every earlier sidecar is cleared or replaced. -/
theorem run_keeps_results_iff (orders : ∀ process names, (disk.order process names).Perm names)
    (complete : List Char → Prop) (whole : ∀ id, complete (calls id).json) (dir : ExtTreeMap String Node)
    (earlier : Complete complete (opened dir : World π ι)) (events : List (Event ι))
    (beyond : ∀ id, (run (step disk calls) (opened dir) events).phase id = .idle ∨
      ∃ ok, (run (step disk calls) (opened dir) events).phase id = .returned ok) :
    ((∀ before after, events = before ++ after → Complete complete (run (step disk calls) (opened dir) before)) ∧
      Kept calls (run (step disk calls) (opened dir) events)) ↔
    Throughout (step disk calls) (Spares disk calls) (opened dir) events ∧
      Replaces disk calls dir (run (step disk calls) (opened dir) events) := by
  have always (before : List (Event ι)) : Complete complete (run (step disk calls) (opened dir) before) := by
    intro name content sidecar found
    rcases (run_traced orders).2.known name content sidecar found with ⟨id,_,_,rfl⟩ | ⟨old,_⟩
    · exact whole id
    · exact earlier name content sidecar old
  rw [and_iff_right fun before _ _ => always before]
  have traced : Traced disk calls dir (run (step disk calls) (opened dir) events) := (run_traced orders).2
  have returned id (saved : Stored ((run (step disk calls) (opened dir) events).phase id)) :
      (run (step disk calls) (opened dir) events).phase id = .returned true := by
    rcases beyond id with idle | ⟨ok,done⟩
    · rw [idle] at saved
      cases saved
    · rw [done] at saved ⊢
      cases ok with
      | true => rfl
      | false => cases saved
  have quiet id rest : (run (step disk calls) (opened dir) events).phase id ≠ .sweeping rest := by
    rcases beyond id with idle | ⟨ok,done⟩
    · rw [idle]
      nofun
    · rw [done]
      nofun
  constructor
  · intro kept
    constructor
    · rcases spares_or_lost distinct orders (opened dir) events (opened_inv dir) with spares | ⟨target,saved,gone⟩
      · exact spares
      · exfalso
        have found := kept.results target (returned target saved)
        rcases gone with absent | ⟨id,rest,at_,_⟩
        · simp [isFile,found] at absent
        · exact quiet id rest at_
    · intro name content sidecar old
      by_contra missed
      simp only [not_or,not_exists,not_and,Bool.not_eq_true] at missed
      have found := traced.untouched name content sidecar old missed.1
        (fun process member lists => missed.2 process member lists) fun id rest at_ => absurd at_ (quiet id rest)
      obtain ⟨id,ok,here⟩ := kept.fresh name content sidecar found
      exact missed.1 id (by rw [ok]; trivial) here
  · rintro ⟨spares,replaces⟩
    have safe := run_safe distinct (opened_inv dir) ⟨nofun,nofun⟩ spares
    constructor
    · intro id ok
      exact safe.results id (by rw [ok]; trivial)
    · intro name content sidecar found
      rcases traced.known name content sidecar found with ⟨id,saved,here,_⟩ | ⟨old,unswept⟩
      · exact ⟨id,returned id saved,here⟩
      · rcases replaces name content sidecar old with ⟨id,saved,here⟩ | ⟨process,member,lists,removes⟩
        · exact ⟨id,returned id saved,here⟩
        · rw [unswept process member lists] at removes
          cases removes

end

end

/-! Two processes, one call each -/

instance decidableStored (phase : Phase) : Decidable (Stored phase) := by
  unfold Stored
  split <;> infer_instance

instance decidableSpares (disk : Disk Bool) (calls : Bool → Call Bool) (world : World Bool Bool) (event : Event Bool) :
    Decidable (Spares disk calls world event) :=
  inferInstanceAs (Decidable (_ → _ → _ → ∀ _ : Bool, _ → _))

def runId : RunId := ⟨"20260101T000000Z",0,by decide⟩

def disk : Disk Bool := ⟨fun _ => true,fun _ names => names,fun _ _ => true⟩

def callOf (process : Bool → Bool) (id : Bool) : Call Bool where
  process := process id
  pid := if process id then 12 else 11
  testName := if id then "second" else "first"
  variantHash := 0
  runId := runId
  json := if id then ['2'] else ['1']

def whole (id : Bool) : List (Event Bool) :=
  [⟨id,false,0⟩,⟨id,false,0⟩,⟨id,false,0⟩,⟨id,false,0⟩,⟨id,false,0⟩,⟨id,false,0⟩,⟨id,false,0⟩,⟨id,false,1⟩,⟨id,false,0⟩,⟨id,false,0⟩]

def oneProcess : Bool → Call Bool := callOf fun _ => false

def stale : ExtTreeMap String Node := (∅ : ExtTreeMap String Node).insert "old-0000000000000000.ktstr.json" (.file ['0'])

theorem oneProcess_run :
    (run (step disk oneProcess) (opened stale) (whole false ++ whole true)).phase false = .returned true ∧
      (run (step disk oneProcess) (opened stale) (whole false ++ whole true)).phase true = .returned true ∧
      (run (step disk oneProcess) (opened stale) (whole false ++ whole true)).cleared = {false} ∧
      Throughout (step disk oneProcess) (Spares disk oneProcess) (opened stale) (whole false ++ whole true) := by
  decide +kernel

theorem oneProcess_distinct (first second : Bool) (same : (oneProcess first).path = (oneProcess second).path) :
    first = second := by
  revert same
  cases first <;> cases second <;> decide +kernel

theorem one_process_keeps :
    (∀ before after, whole false ++ whole true = before ++ after →
      Complete (fun content => content.length = 1) (run (step disk oneProcess) (opened stale) before)) ∧
    Kept oneProcess (run (step disk oneProcess) (opened stale) (whole false ++ whole true)) := by
  have known name content (found : stale[name]? = some (Node.file content)) :
      name = "old-0000000000000000.ktstr.json" ∧ content = ['0'] := by
    rw [stale,ExtTreeMap.getElem?_insert] at found
    split at found
    · next here =>
      rw [LawfulEqCmp.compare_eq_iff_eq] at here
      exact ⟨here.symm,(Node.file.inj (Option.some.inj found)).symm⟩
    · simp at found
  obtain ⟨first,second,cleared,spares⟩ := oneProcess_run
  refine (run_keeps_results_iff oneProcess_distinct (fun _ _ => List.Perm.refl _) _ ?_ stale ?_
    (whole false ++ whole true) ?_).mpr ⟨spares,?_⟩
  · intro id
    cases id <;> rfl
  · intro name content _ found
    rw [(known name content found).2]
    rfl
  · intro id
    cases id with
    | false => exact Or.inr ⟨true,first⟩
    | true => exact Or.inr ⟨true,second⟩
  · intro name content _ found
    refine Or.inr ⟨false,?_,rfl,rfl⟩
    rw [cleared]
    exact Finset.mem_singleton_self _

def twoProcesses : Bool → Call Bool := callOf id

theorem twoProcesses_run :
    (run (step disk twoProcesses) (opened ∅) (whole false ++ whole true)).phase false = .returned true ∧
      (run (step disk twoProcesses) (opened ∅) (whole false ++ whole true)).phase true = .returned true ∧
      (run (step disk twoProcesses) (opened ∅) (whole false ++ whole true)).dir[(twoProcesses false).path]? = none := by
  decide +kernel

/-- The second process clears away what the first has stored. -/
theorem second_process_wipes_first :
    (∀ id, (run (step disk twoProcesses) (opened ∅) (whole false ++ whole true)).phase id = .returned true) ∧
      ¬ Kept twoProcesses (run (step disk twoProcesses) (opened ∅) (whole false ++ whole true)) := by
  obtain ⟨first,second,gone⟩ := twoProcesses_run
  constructor
  · intro id
    cases id with
    | false => exact first
    | true => exact second
  · intro kept
    have there := kept.results false first
    rw [gone] at there
    cases there

end Ktstr.SidecarRuns
