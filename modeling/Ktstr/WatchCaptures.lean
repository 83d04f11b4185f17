import Ktstr.Library.Histories
import Ktstr.Source.Watchpoints

/-! What a stored watch snapshot says about the guest. As long as a trap only reports the registration that its slot
holds at that time and that is still owed a capture, every capture rests on one registration and a store to its address. -/
namespace Ktstr.WatchCaptures
open List Source.Watchpoints Library.Histories Library.Runs

def IsStored : Entry → Prop
  | .stored _ => True
  | _ => False

def WrittenAfter (history : List Entry) (position : Nat) (kva : UInt64) : Prop :=
  ∃ later address width, position < later ∧ history[later]? = some (.written address width) ∧
    touches kva address width = true

/-- A registration, accepted under this name, whose address was written since. -/
def Warrants (past : List Entry) (position : Nat) : Entry → Prop
  | .stored tag => tag ≠ "" ∧ ∃ slot kva, past[position]? = some (.accepted slot tag kva) ∧
      WrittenAfter past position kva
  | _ => False

/-- Every stored capture has a registration of its name, one of its own, whose address was written in between. -/
def CapturesWarranted (history : List Entry) : Prop := ∃ origin, Attribution IsStored Warrants history origin

/-- The coordinator has taken the slot's hit flag and has not released the slot. -/
def Serving : Coordinator → Fin 3 → Prop
  | .taken served,slot | .tagged served _,slot | .captured served _,slot | .stored served,slot
  | .cleared served,slot => slot = served
  | _,_ => False

/-- Symbols have a name; and what traps on a user slot is the address the slot requests, while its hit is not served. -/
def Undisturbed (state : State) : Event → Prop
  | .watch symbol _ => symbol ≠ ""
  | .write vcpu address width => ∀ slot, traps (state.vcpus vcpu) slot address width = true →
      (state.arm.user slot).requestKva = (state.vcpus vcpu).debugreg slot.succ ∧ ¬ Serving state.coordinator slot
  | _ => True

structure Held (history : List Entry) (origin : Nat → Nat) (slot : Fin 3) (cells : WatchpointSlot)
    (position : Nat) : Prop where
  accepted : history[position]? = some (.accepted slot cells.tag cells.requestKva)
  named : cells.tag ≠ ""
  armed : cells.requestKva ≠ 0
  unused : Unused IsStored history origin position

/-- Stages of one slot, as far as the coordinator has come with it. -/
private inductive Stage
  | resting
  | publishing (kva : UInt64)
  | owed
  | naming (tag : String)
  | spent

def only (served : Fin 3) (stage : Stage) (slot : Fin 3) : Stage := if slot = served then stage else .resting

def stageOf : Coordinator → Fin 3 → Stage
  | .publishing served kva => only served (.publishing kva)
  | .taken served => only served .owed
  | .tagged served tag | .captured served tag => only served (.naming tag)
  | .stored served | .cleared served => only served .spent
  | .requests | .scanning _ => fun _ => .resting

def Standing (history : List Entry) (origin : Nat → Nat) (slot : Fin 3) (cells : WatchpointSlot) : Stage → Prop
  | .resting => cells.requestKva = 0 ∧ cells.hit = false ∨ ∃ position, Held history origin slot cells position ∧
      (cells.hit = true → WrittenAfter history position cells.requestKva)
  | .publishing kva => cells.requestKva = 0 ∧ cells.hit = false ∧ cells.tag ≠ "" ∧ kva ≠ 0
  | .owed => cells.hit = false ∧ ∃ position, Held history origin slot cells position ∧
      WrittenAfter history position cells.requestKva
  | .naming tag => cells.hit = false ∧ cells.tag = tag ∧ ∃ position, Held history origin slot cells position ∧
      WrittenAfter history position cells.requestKva
  | .spent => cells.hit = false

private structure Sound (state : State) (origin : Nat → Nat) : Prop where
  attributed : Attribution IsStored Warrants state.history origin
  standing : ∀ slot, Standing state.history origin slot (state.arm.user slot) (stageOf state.coordinator slot)

theorem writtenAfter_append {history : List Entry} {position : Nat} {kva : UInt64} {last : Entry}
    (written : WrittenAfter history position kva) : WrittenAfter (history ++ [last]) position kva := by
  obtain ⟨later,address,width,after,found,touched⟩ := written
  refine ⟨later,address,width,after,?_,touched⟩
  rw [getElem?_append_left (List.getElem?_eq_some_iff.mp found).1,found]

variable {origin : Nat → Nat}

theorem Held.skip {history : List Entry} {slot : Fin 3} {cells : WatchpointSlot} {position : Nat}
    (held : Held history origin slot cells position) (last : Entry) (plain : ¬ IsStored last) :
    Held (history ++ [last]) origin slot cells position where
  accepted := by rw [getElem?_append_left (List.getElem?_eq_some_iff.mp held.accepted).1,held.accepted]
  named := held.named
  armed := held.armed
  unused := held.unused.skip last plain

theorem Standing.skip {history : List Entry} {slot : Fin 3} {cells : WatchpointSlot} {stage : Stage}
    (standing : Standing history origin slot cells stage) (last : Entry) (plain : ¬ IsStored last) :
    Standing (history ++ [last]) origin slot cells stage := by
  cases stage with
  | resting =>
    rcases standing with free | ⟨position,held,written⟩
    · exact .inl free
    · exact .inr ⟨position,held.skip last plain,fun hit => writtenAfter_append (written hit)⟩
  | publishing kva => exact standing
  | owed =>
    obtain ⟨quiet,position,held,written⟩ := standing
    exact ⟨quiet,position,held.skip last plain,writtenAfter_append written⟩
  | naming tag =>
    obtain ⟨quiet,named,position,held,written⟩ := standing
    exact ⟨quiet,named,position,held.skip last plain,writtenAfter_append written⟩
  | spent => exact standing

theorem Standing.stored {history : List Entry} {slot : Fin 3} {cells : WatchpointSlot}
    (standing : Standing history origin slot cells .resting) (last : Entry) (used : Nat) (other : Fin 3)
    (tag : String) (kva : UInt64) (apart : slot ≠ other) (usedIs : history[used]? = some (.accepted other tag kva)) :
    Standing (history ++ [last]) (Function.update origin history.length used) slot cells .resting := by
  rcases standing with free | ⟨position,held,written⟩
  · exact .inl free
  · refine .inr ⟨position,⟨?_,held.named,held.armed,held.unused.extend last ?_⟩,fun hit => writtenAfter_append (written hit)⟩
    · rw [getElem?_append_left (List.getElem?_eq_some_iff.mp held.accepted).1,held.accepted]
    · rintro rfl
      rw [held.accepted] at usedIs
      cases usedIs
      exact apart rfl

variable (arm : WatchpointArm)

@[simp] theorem set_same (slot : Fin 3) (cells : WatchpointSlot) : (arm.set slot cells).user slot = cells := by
  simp [WatchpointArm.set]

theorem sound_initial : Sound {} id where
  attributed := .empty
  standing _ := .inl ⟨rfl,rfl⟩

theorem warrants_earlier (past : List Entry) (position : Nat) (entry : Entry)
    (warrants : Warrants past position entry) : position < past.length := by
  cases entry with
  | stored tag =>
    obtain ⟨_,slot,kva,found,_⟩ := warrants
    exact (List.getElem?_eq_some_iff.mp found).1
  | accepted => exact absurd warrants id
  | written => exact absurd warrants id

variable {state : State}

theorem Sound.skip (sound : Sound state origin) (last : Entry) (plain : ¬ IsStored last) :
    Sound { state with history := state.history ++ [last] } origin where
  attributed := sound.attributed.skip last plain
  standing slot := (sound.standing slot).skip last plain

theorem only_resting {served : Fin 3} : only served .resting = fun _ => .resting := by
  funext slot
  simp [only]

theorem own_stage (sound : Sound state origin) {served : Fin 3} {stage : Stage}
    (was : stageOf state.coordinator = only served stage) :
    Standing state.history origin served (state.arm.user served) stage := by
  have own := sound.standing served
  rwa [was,only,if_pos rfl] at own

theorem Sound.move (sound : Sound state origin) (served : Fin 3) (before after : Stage)
    (cells : WatchpointSlot) (coordinator : Coordinator) (was : stageOf state.coordinator = only served before)
    (is : stageOf coordinator = only served after) (own : Standing state.history origin served cells after) :
    Sound { state with arm := state.arm.set served cells, coordinator := coordinator } origin where
  attributed := sound.attributed
  standing slot := by
    rw [is,only]
    split
    · rename_i same
      subst same
      simpa only [set_same] using own
    · rename_i apart
      have kept := sound.standing slot
      rw [was,only,if_neg apart] at kept
      simpa only [WatchpointArm.set,Function.update_of_ne apart] using kept

theorem Sound.ofCells {other : State} (sound : Sound state origin) (cells : other.arm.user = state.arm.user)
    (stages : stageOf other.coordinator = stageOf state.coordinator) (history : other.history = state.history) :
    Sound other origin where
  attributed := history ▸ sound.attributed
  standing slot := by
    rw [cells,stages,history]
    exact sound.standing slot

variable (lookup : String → Option UInt64)

theorem free_slot {symbol : String} {kaslrOffset : UInt64} {slot : Fin 3} {kva : UInt64}
    (arms : armUserWatchpoint arm lookup symbol kaslrOffset = .ok (slot,kva)) :
    (arm.user slot).requestKva = 0 ∧ kva ≠ 0 := by
  unfold armUserWatchpoint at arms
  split at arms
  · cases arms
  · rename_i found free
    split at arms
    · cases arms
    · simp only at arms
      split at arms
      · cases arms
      · rename_i positive
        split at arms
        · cases arms
        · cases arms
          exact ⟨by simpa using find?_some free,positive⟩

theorem sound_watch (sound : Sound state origin) {symbol : String} {kaslrOffset : UInt64}
    (named : symbol ≠ "") : Sound (watch lookup state symbol kaslrOffset) origin := by
  unfold watch
  split
  · rename_i idle _
    split
    · exact sound
    · rename_i slot kva arms
      obtain ⟨free,positive⟩ := free_slot state.arm lookup arms
      have was : stageOf state.coordinator = only slot .resting := by rw [idle,only_resting]; rfl
      refine sound.move slot .resting (.publishing kva) _ (.publishing slot kva) was rfl ?_
      rcases own_stage sound was with ⟨_,quiet⟩ | ⟨_,held,_⟩
      · exact ⟨free,quiet,named,positive⟩
      · exact absurd free held.armed
  · exact sound

theorem sound_published (sound : Sound state origin) {slot : Fin 3} {kva : UInt64}
    (was : stageOf state.coordinator = only slot (.publishing kva)) : Sound { state with
      arm := state.arm.set slot { state.arm.user slot with requestKva := kva }
      coordinator := .requests
      history := state.history ++ [.accepted slot (state.arm.user slot).tag kva] } origin := by
  obtain ⟨_,quiet,named,positive⟩ := own_stage sound was
  have plain : ¬ IsStored (.accepted slot (state.arm.user slot).tag kva) := id
  refine (sound.skip _ plain).move slot (.publishing kva) .resting _ .requests was only_resting.symm (.inr ?_)
  refine ⟨state.history.length,⟨getElem?_concat_length,named,positive,?_⟩,?_⟩
  · exact sound.attributed.fresh _ plain warrants_earlier
  · intro hit
    simp [quiet] at hit

theorem sound_taken (sound : Sound state origin) {slot : Fin 3}
    (was : stageOf state.coordinator = only slot .resting) (hit : (state.arm.user slot).hit) :
    Sound { state with
      arm := state.arm.set slot { state.arm.user slot with hit := false }, coordinator := .taken slot } origin := by
  refine sound.move slot .resting .owed _ (.taken slot) was rfl ?_
  rcases own_stage sound was with ⟨_,quiet⟩ | ⟨position,held,written⟩
  · rw [quiet] at hit
    cases hit
  · exact ⟨rfl,position,⟨held.accepted,held.named,held.armed,held.unused⟩,written hit⟩

theorem sound_stored (sound : Sound state origin) {slot : Fin 3} {tag : String}
    (was : stageOf state.coordinator = only slot (.naming tag)) : ∃ origin, Sound { state with
      coordinator := .stored slot, history := state.history ++ [.stored tag] } origin := by
  obtain ⟨quiet,rfl,position,held,written⟩ := own_stage sound was
  refine ⟨Function.update origin state.history.length position,?_,?_⟩
  · exact sound.attributed.extend _ position held.unused ⟨held.named,slot,_,held.accepted,written⟩
  · intro other
    change Standing _ _ _ _ (only slot .spent other)
    rw [only]
    split
    · rename_i same
      subst same
      exact quiet
    · rename_i apart
      have kept := sound.standing other
      rw [was,only,if_neg apart] at kept
      exact kept.stored _ position slot _ _ apart held.accepted

theorem set_self (slot : Fin 3) : arm.set slot (arm.user slot) = arm := by
  simp [WatchpointArm.set]

theorem sound_coordinate (sound : Sound state origin) : ∃ origin, Sound (coordinate state) origin := by
  unfold coordinate
  cases now : state.coordinator with
  | requests => exact ⟨origin,sound.ofCells rfl (by rw [now]; rfl) rfl⟩
  | publishing slot kva =>
    have was : stageOf state.coordinator = only slot (.publishing kva) := by rw [now]; rfl
    exact ⟨origin,(sound_published sound was).ofCells rfl rfl rfl⟩
  | scanning next =>
    dsimp only
    split
    · rename_i inside
      split
      · rename_i hit
        have was : stageOf state.coordinator = only ⟨next,inside⟩ .resting := by rw [now,only_resting]; rfl
        exact ⟨origin,sound_taken sound was hit⟩
      · exact ⟨origin,sound.ofCells rfl (by rw [now]; rfl) rfl⟩
    · exact ⟨origin,sound.ofCells rfl (by rw [now]; rfl) rfl⟩
  | taken slot =>
    have was : stageOf state.coordinator = only slot .owed := by rw [now]; rfl
    obtain ⟨quiet,position,held,written⟩ := own_stage sound was
    have moved := sound.move slot .owed (.naming (state.arm.user slot).tag) (state.arm.user slot)
      (.tagged slot (state.arm.user slot).tag) was rfl ⟨quiet,rfl,position,held,written⟩
    rw [set_self] at moved
    exact ⟨origin,moved⟩
  | tagged slot tag =>
    have was : stageOf state.coordinator = only slot (.naming tag) := by rw [now]; rfl
    dsimp only
    split
    · obtain ⟨_,_,position,held,written⟩ := own_stage sound was
      refine ⟨origin,sound.move slot (.naming tag) .resting _ (.scanning (slot + 1)) was only_resting.symm ?_⟩
      exact .inr ⟨position,⟨held.accepted,held.named,held.armed,held.unused⟩,fun _ => written⟩
    · exact ⟨origin,sound.ofCells rfl (by rw [now]; rfl) rfl⟩
  | captured slot tag => exact sound_stored sound (by rw [now]; rfl)
  | stored slot =>
    have was : stageOf state.coordinator = only slot .spent := by rw [now]; rfl
    have quiet := own_stage sound was
    exact ⟨origin,sound.move slot .spent .spent _ (.cleared slot) was rfl quiet⟩
  | cleared slot =>
    have was : stageOf state.coordinator = only slot .spent := by rw [now]; rfl
    have quiet := own_stage sound was
    have moved := sound.move slot .spent .resting { state.arm.user slot with requestKva := 0 }
      (.scanning (slot + 1)) was only_resting.symm (.inl ⟨rfl,quiet⟩)
    exact ⟨origin,moved.ofCells rfl rfl rfl⟩

theorem stage_unserved {coordinator : Coordinator} {slot : Fin 3} (unserved : ¬ Serving coordinator slot) :
    stageOf coordinator slot = .resting ∨ ∃ kva, stageOf coordinator slot = .publishing kva := by
  cases coordinator with
  | requests => exact .inl rfl
  | scanning next => exact .inl rfl
  | publishing served kva =>
    by_cases same : slot = served
    · exact .inr ⟨kva,if_pos same⟩
    · exact .inl (if_neg same)
  | taken served => exact .inl (if_neg unserved)
  | tagged served tag => exact .inl (if_neg unserved)
  | captured served tag => exact .inl (if_neg unserved)
  | stored served => exact .inl (if_neg unserved)
  | cleared served => exact .inl (if_neg unserved)

theorem latch_cells (cells : WatchpointSlot) : latchUserHit cells = { cells with hit := true } := by
  unfold latchUserHit
  split
  · rename_i hit
    rw [← hit]
  · rfl

theorem sound_write (sound : Sound state origin) {vcpu address width : Nat}
    (calm : Undisturbed state (.write vcpu address width)) : Sound { state with
      arm := dispatchWatchpointHit state.arm fun slot => traps (state.vcpus vcpu) slot address width
      history := state.history ++ [.written address width] } origin where
  attributed := sound.attributed.skip _ id
  standing slot := by
    have kept := sound.standing slot
    simp only [dispatchWatchpointHit]
    split
    · rename_i trap
      obtain ⟨requested,unserved⟩ := calm slot trap
      obtain ⟨armed,touched⟩ : (state.vcpus vcpu).debugreg slot.succ ≠ 0 ∧
          touches ((state.vcpus vcpu).debugreg slot.succ) address width := by simpa [traps] using trap
      rw [← requested] at armed touched
      rcases stage_unserved unserved with rest | ⟨kva,publishing⟩
      · rw [rest] at kept ⊢
        rcases kept with ⟨free,_⟩ | ⟨position,held,_⟩
        · exact absurd free armed
        · -- The store itself is what the slot's hit stands for.
          have earlier := (List.getElem?_eq_some_iff.mp held.accepted).1
          have still := held.skip (.written address width) id
          rw [latch_cells]
          exact .inr ⟨position,⟨still.accepted,still.named,still.armed,still.unused⟩,fun _ =>
            ⟨state.history.length,address,width,earlier,getElem?_concat_length,touched⟩⟩
      · rw [publishing] at kept
        exact absurd kept.1 armed
    · exact kept.skip _ id

theorem sound_step (state : State) (event : Event) (calm : Undisturbed state event)
    (sound : ∃ origin, Sound state origin) : ∃ origin, Sound (step lookup state event) origin := by
  obtain ⟨origin,sound⟩ := sound
  cases event with
  | watch symbol kaslrOffset => exact ⟨origin,sound_watch lookup sound calm⟩
  | errExit kva => exact ⟨origin,sound.ofCells rfl rfl rfl⟩
  | gate held => exact ⟨origin,sound.ofCells rfl rfl rfl⟩
  | coordinate => exact sound_coordinate sound
  | selfArm vcpu outcome => exact ⟨origin,sound.ofCells rfl rfl rfl⟩
  | write vcpu address width => exact ⟨origin,sound_write sound calm⟩

/-- In every undisturbed run each capture on the bridge stands for a store to the address of its own registration. -/
theorem captures_warranted (lookup : String → Option UInt64) (events : List Event)
    (calm : Throughout (step lookup) Undisturbed {} events) :
    CapturesWarranted (run (step lookup) {} events).history := by
  obtain ⟨origin,sound⟩ := run_guarded (step lookup) Undisturbed (fun state => ∃ origin, Sound state origin)
    (sound_step lookup) {} events calm ⟨id,sound_initial⟩
  exact ⟨origin,sound.attributed⟩

instance decidableServing : (coordinator : Coordinator) → (slot : Fin 3) → Decidable (Serving coordinator slot)
  | .taken served,slot | .tagged served _,slot | .captured served _,slot | .stored served,slot
  | .cleared served,slot => inferInstanceAs (Decidable (slot = served))
  | .requests,_ | .publishing _ _,_ | .scanning _,_ => isFalse id

instance decidableUndisturbed (state : State) : (event : Event) → Decidable (Undisturbed state event)
  | .watch symbol _ => inferInstanceAs (Decidable (symbol ≠ ""))
  | .write _ _ _ => inferInstanceAs (Decidable (∀ _ : Fin 3, _ → _))
  | .errExit _ | .gate _ | .coordinate | .selfArm _ _ => isTrue trivial

def oneSymbol (symbol : String) : Option UInt64 := if symbol = "jiffies" then some 4096 else none

/-- A registration, the vCPU arms it, a store, and the coordinator up to the release of the slot; after that a store
that no longer traps. -/
def watched : List Event :=
  [.watch "jiffies" 0,.coordinate,.selfArm 0 .ok,.write 0 4096 8,.coordinate,.coordinate,.coordinate,.coordinate,
    .coordinate,.coordinate,.coordinate,.selfArm 0 .ok,.write 0 4096 8]

theorem watched_store_captured :
    Throughout (step oneSymbol) Undisturbed {} watched ∧
      (run (step oneSymbol) {} watched).history =
        [.accepted 0 "jiffies" 4096,.written 4096 8,.stored "jiffies",.written 4096 8] ∧
      CapturesWarranted (run (step oneSymbol) {} watched).history :=
  ⟨by decide +kernel,by decide +kernel,captures_warranted oneSymbol watched (by decide +kernel)⟩

/-- The guest stores once more between the thaw and the release of the slot, and the next round of the coordinator
takes that hit with the tag cleared. -/
def storedTwice : List Event :=
  [.watch "jiffies" 0,.coordinate,.selfArm 0 .ok,.write 0 4096 8,.coordinate,.coordinate,.coordinate,.coordinate,
    .write 0 4096 8] ++ List.replicate 11 .coordinate

theorem empty_tag_stored :
    (run (step oneSymbol) {} storedTwice).history =
        [.accepted 0 "jiffies" 4096,.written 4096 8,.written 4096 8,.stored "jiffies",.stored ""] ∧
      ¬ CapturesWarranted (run (step oneSymbol) {} storedTwice).history := by
  have history : (run (step oneSymbol) {} storedTwice).history =
      [.accepted 0 "jiffies" 4096,.written 4096 8,.written 4096 8,.stored "jiffies",.stored ""] := by decide +kernel
  refine ⟨history,?_⟩
  rintro ⟨origin,attribution⟩
  exact (attribution.warranted 4 (.stored "") rfl trivial).1 rfl

end Ktstr.WatchCaptures
