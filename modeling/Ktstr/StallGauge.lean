import Ktstr.DrainOrder
import Ktstr.Source.Registers

/-! The stall flag of a worker and the gauge it is shown by, over calls of the drain, inline resets and whatever the driver
does to the queue's registers in between. -/
namespace Ktstr.StallGauge
open List Source.BlkRequest Source.Throttle Source.Drain Source.Registers Library.Runs Admission DrainOrder Counters

def Gauged (state : BlkWorkerState) : Prop :=
  state.counters.currentlyThrottledGauge = if state.currentlyStalled then 1 else 0

theorem record_calm {effects : List Effect} (counters : Counters) (quiet : ∀ effect ∈ effects, calm effect) :
    (effects.foldl record counters).currentlyThrottledGauge = counters.currentlyThrottledGauge := by
  induction effects generalizing counters with
  | nil => rfl
  | cons effect effects ih =>
    cases effect <;> simp_all [calm,record]

theorem throttleGate_flag (state : BlkWorkerState) (now : Nat) (delays : Delays) (bytes : Nat) :
    let gated := throttleGate state now delays bytes
    gated.1.currentlyStalled = gated.2.2.isSome ∧ gated.1.readOnly = state.readOnly ∧
      gated.1.queuePoisoned = state.queuePoisoned ∧ gated.1.counters = state.counters := by
  intro gated
  have named : gated = throttleGate state now delays bytes := rfl
  unfold throttleGate at named
  dsimp only at named
  rw [named]
  split
  · exact ⟨rfl,rfl,rfl,rfl⟩
  · exact ⟨rfl,rfl,rfl,rfl⟩

theorem throttleGate_gauge {state : BlkWorkerState} (now : Nat) (delays : Delays) (bytes : Nat)
    (gauged : Gauged state) {counters : Counters} (same : counters.currentlyThrottledGauge = state.counters.currentlyThrottledGauge) :
    ((throttleGate state now delays bytes).2.1.foldl record counters).currentlyThrottledGauge =
      if (throttleGate state now delays bytes).1.currentlyStalled then 1 else 0 := by
  rw [Gauged] at gauged
  unfold throttleGate
  dsimp only
  split
  · cases stalled : state.currentlyStalled
    · simp_all [record]
    · simp_all [record]
  · cases stalled : state.currentlyStalled
    · simp_all
    · simp_all [record]

section
variable {Q ω : Type} (api : QueueApi Q ω)

/-- A property of the queue that every operation of the drain keeps. -/
structure Keeps (kept : Q → Prop) : Prop where
  iterNext : ∀ mem queue, kept queue → kept (api.iterNext mem queue).1
  setNextAvail : ∀ queue position, kept queue → kept (api.setNextAvail queue position)
  addUsed : ∀ mem queue head len, kept queue → kept (api.addUsed mem queue head len).1
  disableNotification : ∀ mem queue, kept queue → kept (api.disableNotification mem queue)
  enableNotification : ∀ mem queue, kept queue → kept (api.enableNotification mem queue).1
  needsNotification : ∀ mem queue, kept queue → kept (api.needsNotification mem queue).1

section
variable (kept : Q → Prop) (keeps : Keeps api kept)
include keeps

variable {api kept}

theorem publish_keeps (answer : Answer ω) (queue : Q) (head : UInt16) (addr : UInt64) (status : UInt8)
    (usedLen : UInt32) (holds : kept queue) :
    kept (publishCompletion api answer queue head addr status usedLen).1 := by
  have used := keeps.addUsed answer.used queue head usedLen holds
  unfold publishCompletion
  split
  · split
    · next same =>
      rw [same] at used
      exact used
    · next same =>
      rw [same] at used
      exact used
  · exact holds

theorem serveChain_keeps (state : BlkWorkerState) (now : Nat) (answer : Answer ω) {queue : Q} (chain : Chain)
    (holds : kept queue) : kept (serveChain api state now answer queue chain).1 := by
  have published := publish_keeps keeps answer queue chain.headIndex
  unfold serveChain
  split
  · exact holds
  split
  · exact holds
  dsimp only
  split
  · exact published _ _ _ holds
  split
  · exact published _ _ _ holds
  split
  · exact published _ _ _ holds
  split
  · exact published _ _ _ holds
  split
  · exact published _ _ _ holds
  split
  · exact keeps.setNextAvail _ _ holds
  · exact published _ _ _ holds

theorem finish_keeps {self : Device Q} {answer : Answer ω} {signalNeeded : Bool} {outcome : DrainOutcome}
    (holds : kept self.queue) : kept (finish api self answer signalNeeded outcome).queue := by
  unfold finish
  split
  · exact keeps.needsNotification answer.signal self.queue holds
  · exact holds

theorem turn_keeps {device : Device Q} (answer : Answer ω) (signal : Bool) (holds : kept device.queue) :
    kept (turn api device answer signal).queue := by
  have next := keeps.iterNext answer.pop device.queue holds
  unfold turn
  split
  · next queue popped =>
    rw [popped] at next
    exact finish_keeps keeps next
  · next queue popped =>
    rw [popped] at next
    exact finish_keeps keeps next
  · next queue popped =>
    rw [popped] at next
    have enabled := keeps.enableNotification answer.enable queue next
    unfold exhausted
    dsimp only
    split
    · exact keeps.disableNotification _ _ enabled
    · exact finish_keeps keeps enabled
  · next queue chain popped =>
    rw [popped] at next
    have served := serveChain_keeps keeps device.state device.now answer chain next
    dsimp only
    split
    · exact served
    · exact served
    · exact finish_keeps keeps (keeps.enableNotification _ _ served)

theorem step_keeps (device : Device Q) (event : Event ω) (holds : kept device.queue) :
    kept (step api device event).queue := by
  unfold step
  split
  · split
    · exact holds
    · dsimp only
      split
      · exact holds
      · exact keeps.disableNotification _ _ holds
  · split
    · exact turn_keeps keeps _ _ holds
    · exact holds

end

theorem serveChain_gauged {state : BlkWorkerState} (now : Nat) (answer : Answer ω) (queue : Q) (chain : Chain)
    (gauged : Gauged state) :
    let served := serveChain api state now answer queue chain
    Gauged {served.2.1 with counters := served.2.2.1.foldl record served.2.1.counters} := by
  intro served
  cases reached : admitted state.readOnly answer chain with
  | none =>
    obtain ⟨same,quiet,_⟩ := serveChain_refused api now queue reached
    have gauge := record_calm state.counters quiet
    rw [show served.2.1 = state from same]
    exact gauge.trans gauged
  | some request =>
    obtain ⟨hdr,segs⟩ := request
    have ended := serveChain_admitted api now queue reached
    have same := (throttleGate_flag state now answer.delays (dataLen segs)).2.2.2
    have gauge := throttleGate_gauge now answer.delays (dataLen segs) gauged rfl
    rw [Gauged,show served.2 = _ from ended]
    generalize throttleGate state now answer.delays (dataLen segs) = gated at *
    obtain ⟨after,effects,_ | waitNanos⟩ := gated
    · dsimp only at same gauge ⊢
      rw [append_assoc,foldl_append,same,record_calm _ ?_,gauge]
      intro effect inside
      rcases mem_append.mp inside with handled | published
      · exact calm_of_handler (dispatch_handled _ _ effect handled)
      · exact publish_calm api effect published
    · dsimp only at same gauge ⊢
      rw [foldl_append,same,record_calm _ (by simp [calm]),gauge]

theorem step_gauged {device : Device Q} {event : Event ω} (gauged : Gauged device.state) :
    Gauged (step api device event).state := by
  unfold step
  split
  · split
    · exact gauged
    · dsimp only
      split
      · exact gauged
      · exact gauged
  · next answer =>
    split
    · next signal _ =>
      unfold turn
      split
      · rw [poison,(finish_kept api _ answer signal _).1]
        exact gauged
      · rw [poison,(finish_kept api _ answer signal _).1]
        exact gauged
      · unfold exhausted
        dsimp only
        split
        · exact gauged
        · rw [(finish_kept api _ answer signal _).1]
          exact gauged
      · next queue chain popped =>
        have served := serveChain_gauged api device.now answer queue chain gauged
        dsimp only
        split
        · exact served
        · exact served
        · rw [(finish_kept api _ answer signal _).1]
          exact served
    · exact gauged

inductive Action (Q ω : Type)
  | drain (event : Event ω)
  | reset (now : Nat)
  | configure (queue : Q)

/-- A device, and the chain its last stall handed back with the header that was read of it. -/
structure Watched (Q : Type) where
  device : Device Q
  waiting : Option (Chain × OutHdr)

def waitingAfter (watched : Watched Q) (answer : Answer ω) : Option (Chain × OutHdr) :=
  match (api.iterNext answer.pop watched.device.queue).2 with
  | .ok (some chain) =>
    match admitted watched.device.state.readOnly answer chain with
    | some (hdr,segs) =>
      if (throttleGate watched.device.state watched.device.now answer.delays (dataLen segs)).2.2.isSome then some (chain,hdr)
      else none
    | none => none
  | _ => watched.waiting

/-- Resets and register writes come between calls, on the thread that drains. -/
def watch (resetQueue : Q → Q) (throttle : DiskThrottle) (watched : Watched Q) : Action Q ω → Watched Q
  | .drain event =>
    { device := step api watched.device event
      waiting :=
        match watched.device.phase,event with
        | .draining _,.turn answer => waitingAfter api watched answer
        | _,_ => watched.waiting }
  | .reset now =>
    match watched.device.phase with
    | .draining _ => watched
    | .returned _ =>
      { device := {watched.device with
          queue := resetQueue watched.device.queue
          state := rebuild throttle now watched.device.state}
        waiting := none }
  | .configure queue =>
    match watched.device.phase with
    | .draining _ => watched
    | .returned _ => {watched with device := {watched.device with queue := queue}}

/-- The next pop finds the chain again, with its header, unless the iterator fails. -/
def FoundAgain (device : Device Q) (answer : Answer ω) (chain : Chain) (hdr : OutHdr) : Prop :=
  (∃ failure, (api.iterNext answer.pop device.queue).2 = .error failure) ∨
    (api.iterNext answer.pop device.queue).2 = .ok (some chain) ∧
      (headerAddr chain.descriptors).bind answer.readHeader = some hdr

/-- The guest leaves a chain that waits as it was published, and its queue in place. -/
def Unmodified (watched : Watched Q) : Action Q ω → Prop
  | .drain (.turn answer) => ∀ signal chain hdr, watched.device.phase = .draining signal →
      watched.waiting = some (chain,hdr) → FoundAgain api watched.device answer chain hdr
  | .configure _ => watched.waiting = none
  | _ => True

def Returns (device : Device Q) (event : Event ω) (outcome : DrainOutcome) : Prop :=
  (step api device event).phase = .returned outcome ∧
    match device.phase,event with
    | .returned _,.call _ _ => True
    | .draining _,.turn _ => True
    | _,_ => False

/-- The flag is up while a chain waits, and then the queue is there to pop it again. -/
structure Flagged (watched : Watched Q) : Prop where
  flag : watched.device.state.currentlyStalled = watched.waiting.isSome
  ready : watched.waiting.isSome = true → api.ready watched.device.queue = true
  draining : ∀ signal, watched.device.phase = .draining signal → api.ready watched.device.queue = true
  reached : ∀ chain hdr, watched.waiting = some (chain,hdr) → ∃ answer : Answer ω,
    (headerAddr chain.descriptors).bind answer.readHeader = some hdr ∧
      (admitted watched.device.state.readOnly answer chain).isSome = true

theorem Flagged.again (watched : Watched Q) (flagged : Flagged api watched) (answer : Answer ω) (chain found : Chain)
    (hdr : OutHdr) (waits : watched.waiting = some (chain,hdr)) (again : FoundAgain api watched.device answer chain hdr)
    (popped : (api.iterNext answer.pop watched.device.queue).2 = .ok (some found)) :
    (admitted watched.device.state.readOnly answer found).isSome := by
  rcases again with ⟨failure,failed⟩ | ⟨same,header⟩
  · rw [failed] at popped
    cases popped
  · rw [same] at popped
    cases popped
    obtain ⟨first,read,reached⟩ := flagged.reached chain hdr waits
    rw [admitted,header.trans read.symm]
    exact reached

def Telling (device : Device Q) : Prop :=
  ∀ outcome, device.phase = .returned outcome → device.state.queuePoisoned = false →
    (device.state.currentlyStalled = true ↔ ∃ waitNanos, outcome = .throttleStalled waitNanos)

theorem poison_state (self : Device Q) (answer : Answer ω) (effect : Effect) (signal : Bool) :
    (poison api self answer effect signal).state =
      {self.state with queuePoisoned := true,counters := self.state.counters.record effect} :=
  (finish_kept api _ answer signal _).1

theorem exhausted_kept (self : Device Q) (answer : Answer ω) (signal : Bool) :
    (exhausted api self answer signal).state = self.state ∧
      ∀ outcome, (exhausted api self answer signal).phase = .returned outcome → outcome = .done := by
  unfold exhausted
  dsimp only
  split
  · exact ⟨rfl,by simp⟩
  · obtain ⟨state,_,phase⟩ := finish_kept api
      {self with queue := (api.enableNotification answer.enable self.queue).1} answer signal .done
    refine ⟨state,fun outcome ended => ?_⟩
    rw [phase] at ended
    cases ended
    rfl

section
variable (watched : Watched Q) (answer : Answer ω) (signal : Bool) (flagged : Flagged api watched)
  (unmodified : ∀ chain hdr, watched.waiting = some (chain,hdr) → FoundAgain api watched.device answer chain hdr)
  (ready : api.ready (turn api watched.device answer signal).queue)

/-- After the turn the flag is up while a chain waits, and tells the outcome. -/
def Settled : Prop :=
  Flagged api ⟨turn api watched.device answer signal,waitingAfter api watched answer⟩ ∧
    Telling (turn api watched.device answer signal)

variable {watched answer signal}

theorem failed_flagged {queue : Q} {failure : IterError} (flagged : Flagged api watched)
    (ready : api.ready (turn api watched.device answer signal).queue)
    (failed : api.iterNext answer.pop watched.device.queue = (queue,.error failure)) :
    Settled api watched answer signal := by
  have kept : waitingAfter api watched answer = watched.waiting := by rw [waitingAfter,failed]
  have state : (turn api watched.device answer signal).state.queuePoisoned ∧
      (turn api watched.device answer signal).state.currentlyStalled = watched.device.state.currentlyStalled ∧
      (turn api watched.device answer signal).state.readOnly = watched.device.state.readOnly := by
    unfold turn
    rw [failed]
    cases failure <;> simp only [poison_state] <;> exact ⟨trivial,trivial,trivial⟩
  rw [Settled,kept]
  refine ⟨⟨state.2.1.trans flagged.flag,fun _ => ready,fun _ _ => ready,?_⟩,fun _ _ sound => ?_⟩
  · dsimp only
    rw [state.2.2]
    exact flagged.reached
  · rw [state.1] at sound
    cases sound

include flagged unmodified ready

theorem empty_flagged {queue : Q} (found : api.iterNext answer.pop watched.device.queue = (queue,.ok none)) :
    Settled api watched answer signal := by
  -- A chain that waits would have been found, so there is none.
  have idle : watched.waiting = none := by
    rw [Option.eq_none_iff_forall_ne_some]
    rintro ⟨chain,hdr⟩ waits
    rcases unmodified chain hdr waits with ⟨failure,failed⟩ | ⟨same,_⟩
    · rw [found] at failed
      cases failed
    · rw [found] at same
      cases same
  have kept : waitingAfter api watched answer = none := by rw [waitingAfter,found,idle]
  have down : watched.device.state.currentlyStalled = false := by
    rw [flagged.flag,idle]
    rfl
  have turned : turn api watched.device answer signal = exhausted api {watched.device with queue := queue} answer signal := by
    unfold turn
    rw [found]
  obtain ⟨state,ended⟩ := exhausted_kept api {watched.device with queue := queue} answer signal
  rw [turned] at ready
  rw [Settled,turned,kept]
  refine ⟨⟨?_,fun _ => ready,fun _ _ => ready,by simp⟩,fun outcome phase _ => ?_⟩
  · dsimp only
    rw [state,down]
    rfl
  · rw [ended outcome phase,state,down]
    simp

theorem refused_flagged {queue : Q} {chain : Chain}
    (popped : api.iterNext answer.pop watched.device.queue = (queue,.ok (some chain)))
    (refused : admitted watched.device.state.readOnly answer chain = none) : Settled api watched answer signal := by
  obtain ⟨state,_,phase⟩ := turn_popped api signal popped
  obtain ⟨same,_,served⟩ := serveChain_refused api watched.device.now queue refused
  -- A chain that waits would have reached the gate again.
  have idle : watched.waiting = none := by
    rw [Option.eq_none_iff_forall_ne_some]
    rintro ⟨other,hdr⟩ waits
    have again := flagged.again api watched answer other chain hdr waits (unmodified other hdr waits) (by rw [popped])
    rw [refused] at again
    cases again
  have kept : waitingAfter api watched answer = none := by
    rw [waitingAfter,popped]
    dsimp only
    rw [refused]
  have down : (turn api watched.device answer signal).state.currentlyStalled = false := by
    rw [state,same,flagged.flag,idle]
    rfl
  rw [Settled,kept]
  refine ⟨⟨down,fun _ => ready,fun _ _ => ready,by simp⟩,fun outcome ended _ => ?_⟩
  rw [phase] at ended
  cases how : (serveChain api watched.device.state watched.device.now answer queue chain).2.2.2 with
  | published more =>
    rw [how] at ended
    cases ended
  | dropped =>
    rw [how] at ended
    cases ended
  | stalled waitNanos => exact absurd how (served waitNanos)

omit flagged unmodified in
theorem admitted_flagged {queue : Q} {chain : Chain} {hdr : OutHdr} {segs : List ChainDescriptor}
    (popped : api.iterNext answer.pop watched.device.queue = (queue,.ok (some chain)))
    (reached : admitted watched.device.state.readOnly answer chain = some (hdr,segs)) :
    Settled api watched answer signal := by
  obtain ⟨state,_,phase⟩ := turn_popped api signal popped
  have served := serveChain_admitted api watched.device.now queue reached
  obtain ⟨flag,readOnly,_,_⟩ := throttleGate_flag watched.device.state watched.device.now answer.delays (dataLen segs)
  obtain ⟨_,_,_,⟨header,at_,read⟩,_⟩ := admitted_some reached
  have kept : waitingAfter api watched answer =
      if (throttleGate watched.device.state watched.device.now answer.delays (dataLen segs)).2.2.isSome then
        some (chain,hdr) else none := by
    rw [waitingAfter,popped]
    dsimp only
    rw [reached]
  generalize throttleGate watched.device.state watched.device.now answer.delays (dataLen segs) = gated at *
  obtain ⟨after,effects,_ | waitNanos⟩ := gated
  · rw [served] at state phase
    have down : (turn api watched.device answer signal).state.currentlyStalled = false := by
      rw [state]
      exact flag
    rw [Settled,kept]
    refine ⟨⟨down,fun _ => ready,fun _ _ => ready,by simp⟩,fun outcome ended _ => ?_⟩
    rw [phase] at ended
    cases ended
  · rw [served] at state phase
    have up : (turn api watched.device answer signal).state.currentlyStalled := by
      rw [state]
      exact flag
    have same : (turn api watched.device answer signal).state.readOnly = watched.device.state.readOnly := by
      rw [state]
      exact readOnly
    rw [Settled,kept]
    refine ⟨⟨up,fun _ => ready,fun _ _ => ready,?_⟩,fun outcome ended _ => ?_⟩
    · rintro _ _ ⟨⟩
      refine ⟨answer,by rw [at_,Option.bind_some,read],?_⟩
      rw [same,reached]
      rfl
    · rw [phase] at ended
      cases ended
      simp [up]

theorem turn_flagged : Settled api watched answer signal := by
  cases popped : api.iterNext answer.pop watched.device.queue with
  | mk queue found =>
  rcases found with failure | _ | chain
  · exact failed_flagged api flagged ready popped
  · exact empty_flagged api flagged unmodified ready popped
  · cases reached : admitted watched.device.state.readOnly answer chain with
    | none => exact refused_flagged api flagged unmodified ready popped reached
    | some request => exact admitted_flagged api ready popped reached

end

section
variable (resetQueue : Q → Q) (throttle : DiskThrottle) (keeps : Keeps api fun queue => api.ready queue)
include keeps

theorem drain_flagged {watched : Watched Q} {event : Event ω} (flagged : Flagged api watched)
    (unmodified : Unmodified api watched (.drain event)) :
    Flagged api (watch api resetQueue throttle watched (.drain event)) ∧
      ∀ outcome, Returns api watched.device event outcome → Telling (step api watched.device event) := by
  cases event with
  | call delay disable =>
    cases phase : watched.device.phase with
    | draining signal =>
      have same : step api watched.device (.call delay disable) = watched.device := by simp only [step,phase]
      simp only [watch,same,Returns,phase]
      exact ⟨flagged,by simp⟩
    | returned last =>
      have kept : watch api resetQueue throttle watched (.drain (.call delay disable)) =
          ⟨step api watched.device (.call delay disable),watched.waiting⟩ := by simp only [watch,phase]
      have ready := step_keeps keeps watched.device (.call delay disable)
      have state : (step api watched.device (.call delay disable)).state = watched.device.state := by
        simp only [step,phase]
        split <;> rfl
      have entered : ∀ signal, (step api watched.device (.call delay disable)).phase = .draining signal →
          api.ready watched.device.queue := by
        simp only [step,phase]
        split
        · simp
        · next open_ =>
          simp only [Bool.or_eq_true,Bool.not_eq_true',not_or,Bool.not_eq_false] at open_
          exact fun _ _ => open_.1
      rw [kept]
      refine ⟨⟨?_,fun waits => ready (flagged.ready waits),fun signal inside => ready (entered signal inside),?_⟩,?_⟩
      · dsimp only
        rw [state]
        exact flagged.flag
      · dsimp only
        rw [state]
        exact flagged.reached
      · intro _ _ outcome ended sound
        rw [state] at sound
        obtain ⟨rfl,closed⟩ : outcome = .done ∧ api.ready watched.device.queue = false := by
          simp only [step,phase,sound,Bool.or_false,Bool.not_eq_true'] at ended
          split at ended
          · next closed => exact ⟨(Phase.returned.inj ended).symm,closed⟩
          · cases ended
        have idle : watched.waiting.isSome = false := by
          by_contra waits
          rw [flagged.ready (Bool.eq_true_of_not_eq_false waits)] at closed
          cases closed
        rw [state,flagged.flag,idle]
        simp
  | turn answer =>
    cases phase : watched.device.phase with
    | draining signal =>
      have turned : step api watched.device (.turn answer) = turn api watched.device answer signal := by
        simp only [step,phase]
      have ready := turn_keeps keeps answer signal (flagged.draining signal phase)
      have done := turn_flagged api flagged
        (fun chain hdr waits => unmodified signal chain hdr phase waits) ready
      simp only [watch,phase,turned]
      exact ⟨done.1,fun _ _ => done.2⟩
    | returned last =>
      have same : step api watched.device (.turn answer) = watched.device := by simp only [step,phase]
      simp only [watch,same,Returns,phase]
      exact ⟨flagged,by simp⟩

theorem watch_flagged (watched : Watched Q) (action : Action Q ω) (unmodified : Unmodified api watched action)
    (flagged : Flagged api watched) : Flagged api (watch api resetQueue throttle watched action) := by
  cases action with
  | drain event => exact (drain_flagged api resetQueue throttle keeps flagged unmodified).1
  | reset now =>
    simp only [watch]
    split
    · exact flagged
    · next phase => exact ⟨rfl,by simp,by simp [phase],by simp⟩
  | configure queue =>
    have idle : watched.waiting = none := unmodified
    simp only [watch]
    split
    · exact flagged
    · next phase => exact ⟨flagged.flag,by simp [idle],by simp [phase],by simp [idle]⟩

end

theorem watch_gauged {resetQueue : Q → Q} {throttle : DiskThrottle} (watched : Watched Q)
    (action : Action Q ω) (gauged : Gauged watched.device.state) :
    Gauged (watch api resetQueue throttle watched action).device.state := by
  cases action with
  | drain event => exact step_gauged api gauged
  | reset now =>
    simp only [watch]
    split
    · exact gauged
    · rw [Gauged] at gauged
      cases stalled : watched.device.state.currentlyStalled
      · simp_all [Gauged,rebuild]
      · simp_all [Gauged,rebuild,record]
  | configure queue =>
    simp only [watch]
    split
    · exact gauged
    · exact gauged

def opened (queue : Q) (capacityBytes : Nat) (throttle : DiskThrottle) (readOnly : Bool) (now : Nat) : Watched Q where
  device :=
    atRest queue
      { opsBucket := (bucketsFromThrottle throttle now).1
        bytesBucket := (bucketsFromThrottle throttle now).2
        capacityBytes := capacityBytes / sectorSize * sectorSize
        readOnly := readOnly
        counters := {}
        currentlyStalled := false
        queuePoisoned := false }
      0 0 now
  waiting := none

theorem opened_inline (queue : Q) (capacityBytes : Nat) (throttle : DiskThrottle) (readOnly : Bool) (now : Nat) :
    (withOptions .test queue capacityBytes throttle readOnly now).engine =
      .inline (opened queue capacityBytes throttle readOnly now).device.state := rfl

/-- In every run the gauge shows the flag; and as long as the guest leaves the chain that waits as it was published, the
flag after a call that did not poison the queue is the call's outcome. -/
theorem stall_gauge_shows_outcome (resetQueue : Q → Q) (keeps : Keeps api fun queue => api.ready queue = true)
    (queue : Q) (capacityBytes : Nat) (throttle : DiskThrottle) (readOnly : Bool) (now : Nat) (actions : List (Action Q ω)) :
    let start := opened queue capacityBytes throttle readOnly now
    let watched := run (watch api resetQueue throttle) start actions
    watched.device.state.counters.currentlyThrottledGauge = (if watched.device.state.currentlyStalled then 1 else 0) ∧
      (Throughout (watch api resetQueue throttle) (Unmodified api) start actions →
        ∀ event outcome, Unmodified api watched (.drain event) → Returns api watched.device event outcome →
          let after := (step api watched.device event).state
          after.queuePoisoned = false →
            (after.currentlyStalled = true ↔ ∃ waitNanos, outcome = .throttleStalled waitNanos)) := by
  intro start watched
  have fresh : Flagged api start := ⟨rfl,by simp [start,opened],by simp [start,opened,atRest],by simp [start,opened]⟩
  refine ⟨?_,?_⟩
  · exact run_invariant (watch api resetQueue throttle) (fun watched => Gauged watched.device.state)
      (watch_gauged api) start actions rfl
  · intro unmodified event outcome next returns after sound
    have flagged := run_guarded (watch api resetQueue throttle) (Unmodified api) (Flagged api)
      (watch_flagged api resetQueue throttle keeps) start actions unmodified fresh
    exact (drain_flagged api resetQueue throttle keeps flagged next).2 outcome returns outcome returns.1 sound

end

theorem splitRing_keeps_ready : Keeps splitRing fun queue => splitRing.ready queue where
  iterNext mem queue holds := by
    simp only [splitRing] at holds ⊢
    split
    · exact holds
    split
    · exact holds
    split
    · exact holds
    split
    · exact holds
    · exact holds
  setNextAvail _ _ holds := holds
  addUsed _ _ _ _ holds := holds
  disableNotification _ _ holds := holds
  enableNotification _ _ holds := holds
  needsNotification _ _ holds := holds

def oneOpThrottle : DiskThrottle := ⟨some ⟨1,by decide⟩,none,none,none⟩

def unready (queue : Ring) : Ring := {queue with ready := false}

def flushes : List (Action Ring RingMemory) :=
  [.drain (.call 0 flushMemory),.drain (.turn flushAnswer),.drain (.turn flushAnswer),.drain (.call 0 flushMemory)]

def flushesStart : Watched Ring := opened ⟨true,8,65535⟩ 4096 oneOpThrottle false 0

theorem flushes_unmodified :
    Throughout (watch splitRing unready oneOpThrottle) (Unmodified splitRing) flushesStart flushes := by
  have called : (run (watch splitRing unready oneOpThrottle) flushesStart [.drain (.call 0 flushMemory)]).waiting = none := by
    decide +kernel
  have flushed : (run (watch splitRing unready oneOpThrottle) flushesStart
      [.drain (.call 0 flushMemory),.drain (.turn flushAnswer)]).waiting = none := by
    decide +kernel
  exact ⟨trivial,fun _ _ _ _ waits => absurd (called.symm.trans waits) (by simp),
    fun _ _ _ _ waits => absurd (flushed.symm.trans waits) (by simp),trivial,trivial⟩

theorem flushes_found_again :
    Unmodified splitRing (run (watch splitRing unready oneOpThrottle) flushesStart flushes) (.drain (.turn flushAnswer)) := by
  intro _ chain hdr _ waits
  cases waits
  exact Or.inr ⟨rfl,rfl⟩

theorem flushes_return :
    Returns splitRing (run (watch splitRing unready oneOpThrottle) flushesStart flushes).device (.turn flushAnswer)
      (.throttleStalled 1000000000) := by
  refine ⟨by decide +kernel,?_⟩
  trivial

/-- The second call finds the flush again, and the gauge has not moved. -/
theorem second_flush_gauged :
    let watched := run (watch splitRing unready oneOpThrottle) flushesStart flushes
    watched.device.state.counters.currentlyThrottledGauge = 1 ∧
      (step splitRing watched.device (.turn flushAnswer)).state.currentlyStalled = true := by
  obtain ⟨gauge,told⟩ := stall_gauge_shows_outcome splitRing unready splitRing_keeps_ready
    ⟨true,8,65535⟩ 4096 oneOpThrottle false 0 flushes
  have stalled : (run (watch splitRing unready oneOpThrottle) flushesStart flushes).device.state.currentlyStalled := by
    decide +kernel
  refine ⟨gauge.trans (if_pos stalled),?_⟩
  exact (told flushes_unmodified (.turn flushAnswer) _ flushes_found_again flushes_return (by decide +kernel)).mpr ⟨_,rfl⟩

end Ktstr.StallGauge
