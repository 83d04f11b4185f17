import Ktstr.Admission
import Ktstr.Library.Runs
import Ktstr.Semantics.Turns

/-! Every run of the drain resolves the ring positions it pops once each and in ring
order; a stall hands its position back untouched. -/
namespace Ktstr.DrainOrder
open List Source.BlkRequest Source.Throttle Source.Drain Semantics.Turns Library.Runs Admission

def inward : Effect → Bool
  | .statusByte _ _ _ | .addUsed _ _ _ | .rewind => false
  | .recordRead _ | .recordWrite _ | .recordFlush | .recordIoError | .recordThrottled | .recordThrottlePendingInc
  | .recordThrottlePendingDec | .recordInvalidAvailIdx | .backing | .guestWrite _ _ => true

theorem usedHeads_inward {effects : List Effect} (quiet : ∀ effect ∈ effects, inward effect) :
    usedHeads effects = [] := by
  rw [usedHeads,filterMap_eq_nil_iff]
  intro effect inside
  have := quiet effect inside
  cases effect <;> simp_all [inward]

theorem rewind_inward {effects : List Effect} (quiet : ∀ effect ∈ effects, inward effect) :
    Effect.rewind ∉ effects := by
  intro inside
  have := quiet _ inside
  simp [inward] at this

theorem inward_of_handler {effect : Effect} (handled : fromHandler effect) : inward effect := by
  cases effect <;> simp_all [fromHandler,inward]

theorem throttleGate_effects (state : BlkWorkerState) (now : Nat) (delays : Delays) (bytes : Nat) :
    ∀ effect ∈ (throttleGate state now delays bytes).2.1, inward effect ∧ outward effect = false := by
  unfold throttleGate
  dsimp only
  split
  · split <;> simp [inward,outward]
  · split <;> simp [inward,outward]

theorem throttleGate_counters (state : BlkWorkerState) (now : Nat) (delays : Delays) (bytes : Nat) :
    (throttleGate state now delays bytes).1.counters = state.counters := by
  unfold throttleGate
  dsimp only
  split
  · rfl
  · rfl

section
variable {Q ω : Type} (api : QueueApi Q ω)

def Settled (head : UInt16) (effects : List Effect) : Prop :=
  Effect.rewind ∉ effects ∧
    (usedHeads effects = [head] ∨ usedHeads effects = [] ∧ Effect.recordIoError ∈ effects)

theorem publish_settled (answer : Answer ω) (queue : Q) (head : UInt16) (addr : UInt64) (status : UInt8)
    (usedLen : UInt32) {before : List Effect} (quiet : ∀ effect ∈ before, inward effect) :
    Settled head (before ++ (publishCompletion api answer queue head addr status usedLen).2.1) := by
  have none := usedHeads_inward quiet
  have kept := rewind_inward quiet
  have joined : ∀ after, usedHeads (before ++ after) = usedHeads after := by
    intro after
    rw [usedHeads,filterMap_append,← usedHeads,none,nil_append,← usedHeads]
  unfold publishCompletion
  split
  · split
    · exact ⟨by simp [kept],Or.inl (by rw [joined]; rfl)⟩
    · exact ⟨by simp [kept],Or.inr ⟨by rw [joined]; rfl,by simp⟩⟩
  · exact ⟨by simp [kept],Or.inr ⟨by rw [joined]; rfl,by simp⟩⟩

theorem publish_cursor (lawful : api.Lawful) (answer : Answer ω) (queue : Q) (head : UInt16)
    (addr : UInt64) (status : UInt8) (usedLen : UInt32) :
    api.nextAvail (publishCompletion api answer queue head addr status usedLen).1 = api.nextAvail queue := by
  have law := lawful.used answer.used queue head usedLen
  unfold publishCompletion
  split
  · split
    · rename_i same
      rw [same] at law
      exact law
    · rename_i same
      rw [same] at law
      exact law
  · rfl

/-- The two ways a popped chain can end: handed back with the cursor moved back to it
and nothing outward done, or settled with the cursor left behind it. -/
inductive Ended (queue : Q) (counters : Counters) (head : UInt16) : Q × BlkWorkerState × List Effect × Served → Prop
  | handedBack (after : Q) (state : BlkWorkerState) (effects : List Effect) (waitNanos : Nat)
      (cursor : api.nextAvail after = api.nextAvail queue - 1)
      (untouched : ∀ effect ∈ effects, outward effect = false) (same : state.counters = counters) :
      Ended queue counters head (after,state,effects ++ [.rewind],.stalled waitNanos)
  | settled (after : Q) (state : BlkWorkerState) (effects : List Effect) (served : Served)
      (cursor : api.nextAvail after = api.nextAvail queue) (once : Settled head effects)
      (kept : ∀ waitNanos, served ≠ .stalled waitNanos) (same : state.counters = counters) :
      Ended queue counters head (after,state,effects,served)

theorem serveChain_ended (lawful : api.Lawful) (state : BlkWorkerState) (now : Nat) (answer : Answer ω)
    (queue : Q) (chain : Chain) :
    Ended api queue state.counters chain.headIndex (serveChain api state now answer queue chain) := by
  have published : ∀ (after : BlkWorkerState) (before : List Effect) (addr : UInt64) (status : UInt8)
      (usedLen : UInt32), after.counters = state.counters → (∀ effect ∈ before, inward effect) →
      Ended api queue state.counters chain.headIndex
        ((publishCompletion api answer queue chain.headIndex addr status usedLen).1,after,
          before ++ (publishCompletion api answer queue chain.headIndex addr status usedLen).2.1,
          .published (publishCompletion api answer queue chain.headIndex addr status usedLen).2.2) := by
    intro after before addr status usedLen same quiet
    exact .settled _ _ _ _ (publish_cursor api lawful answer queue _ _ _ _)
      (publish_settled api answer queue _ _ _ _ quiet) (by simp) same
  have dropped : Ended api queue state.counters chain.headIndex (queue,state,[.recordIoError],.dropped) :=
    .settled _ _ _ _ rfl ⟨by simp,Or.inr ⟨rfl,by simp⟩⟩ (by simp) rfl
  have rejected : ∀ effect ∈ [Effect.recordIoError], inward effect := by simp [inward]
  unfold serveChain
  split
  · exact dropped
  split
  · exact dropped
  rename_i status _
  dsimp only
  split
  · exact published state _ status _ _ rfl rejected
  split
  · exact published state _ status _ _ rfl rejected
  split
  · exact published state _ status _ _ rfl rejected
  split
  · rename_i early
    exact published state _ status _ _ rfl fun effect inside =>
      inward_of_handler (classify_handled early effect inside)
  split
  · exact published state _ status _ _ rfl rejected
  have quiet := throttleGate_effects state now answer.delays (dataLen (chain.descriptors.drop 1).dropLast)
  have same := throttleGate_counters state now answer.delays (dataLen (chain.descriptors.drop 1).dropLast)
  split
  · rename_i after effects waitNanos gate
    rw [gate] at quiet same
    exact .handedBack _ _ _ _ (lawful.rewound _ _) (fun effect inside => (quiet effect inside).2) same
  · rename_i after effects gate
    rw [gate] at quiet same
    refine published after _ status _ _ same ?_
    intro effect inside
    rcases mem_append.mp inside with inside | inside
    · exact (quiet effect inside).1
    · exact inward_of_handler (dispatch_handled _ _ effect inside)

theorem record_ioErrors (effects : List Effect) (counters : Counters) :
    (effects.foldl Counters.record counters).ioErrors = counters.ioErrors + effects.count .recordIoError := by
  induction effects generalizing counters with
  | nil => rfl
  | cons effect effects ih =>
    rw [foldl_cons,ih]
    cases effect <;> simp [Counters.record,Nat.add_comm,Nat.add_left_comm]

/-- The run so far, counted from the cursor and the error counter it started with. -/
structure Ordered (first : UInt16) (errors : Nat) (device : Device Q) : Prop where
  cursor : api.nextAvail device.queue = first + UInt16.ofNat (resolved device.turns).length
  inOrder : (resolved device.turns).map Turn.position = ringFrom first (resolved device.turns).length
  sound : ∀ turn ∈ device.turns, Turn.Sound turn
  counted : errors + device.turns.countP Turn.dropped ≤ device.state.counters.ioErrors
  pending : ∀ waitNanos, device.phase = .returned (.throttleStalled waitNanos) →
    ∃ turn, device.turns.getLast? = some turn ∧ Turn.stalled turn = true ∧
      turn.position = api.nextAvail device.queue

variable (first : UInt16) (errors : Nat)

variable {api}

theorem finish_ordered (lawful : api.Lawful) (first : UInt16) (errors : Nat) (self : Device Q)
    (answer : Answer ω) (signalNeeded : Bool) (outcome : DrainOutcome)
    (ordered : Ordered api first errors {self with phase := .returned outcome}) :
    Ordered api first errors (finish api self answer signalNeeded outcome) := by
  unfold finish
  split
  · have same := lawful.notified answer.signal self.queue
    obtain ⟨cursor,inOrder,sound,counted,pending⟩ := ordered
    exact ⟨same.trans cursor,inOrder,sound,counted,by simpa only [same] using pending⟩
  · exact ordered

variable {first errors}

theorem quiet_ordered {self after : Device Q} (ordered : Ordered api first errors self)
    (cursor : api.nextAvail after.queue = api.nextAvail self.queue) (turns : after.turns = self.turns)
    (more : self.state.counters.ioErrors ≤ after.state.counters.ioErrors)
    (phase : ∀ waitNanos, after.phase ≠ .returned (.throttleStalled waitNanos)) :
    Ordered api first errors after := by
  refine ⟨?_,?_,?_,?_,fun waitNanos stalled => absurd stalled (phase waitNanos)⟩
  · rw [cursor,turns]
    exact ordered.cursor
  · rw [turns]
    exact ordered.inOrder
  · rw [turns]
    exact ordered.sound
  · rw [turns]
    exact ordered.counted.trans more

theorem ringFrom_succ (count : Nat) :
    ringFrom first (count + 1) = ringFrom first count ++ [first + UInt16.ofNat count] := by
  simp [ringFrom,range_succ]

variable (before after : Device Q) (head : UInt16) (effects : List Effect)

variable {head}

theorem handedBack_ordered (ordered : Ordered api first errors before)
    (untouched : ∀ effect ∈ effects, outward effect = false)
    (cursor : api.nextAvail after.queue = api.nextAvail before.queue)
    (turns : after.turns = before.turns ++ [⟨api.nextAvail before.queue,head,effects ++ [.rewind]⟩])
    (counted : before.state.counters.ioErrors ≤ after.state.counters.ioErrors) :
    Ordered api first errors after := by
  have stalled : Turn.stalled ⟨api.nextAvail before.queue,head,effects ++ [.rewind]⟩ := by
    simp [Turn.stalled]
  have same : resolved after.turns = resolved before.turns := by
    rw [turns,resolved]
    simp [stalled,resolved]
  refine ⟨?_,?_,?_,?_,?_⟩
  · rw [cursor,same]
    exact ordered.cursor
  · rw [same]
    exact ordered.inOrder
  · intro turn inside
    rw [turns,mem_append,mem_singleton] at inside
    rcases inside with inside | rfl
    · exact ordered.sound turn inside
    · refine ⟨fun kept => by rw [stalled] at kept; contradiction,fun _ effect inside => ?_⟩
      rcases mem_append.mp inside with inside | inside
      · exact untouched effect inside
      · rw [mem_singleton.mp inside]
        rfl
  · rw [turns]
    simpa [Turn.dropped,stalled] using ordered.counted.trans counted
  · intro _ _
    exact ⟨_,by rw [turns,getLast?_concat],stalled,cursor.symm⟩

theorem settled_ordered (ordered : Ordered api first errors before) (once : Settled head effects)
    (cursor : api.nextAvail after.queue = api.nextAvail before.queue + 1)
    (turns : after.turns = before.turns ++ [⟨api.nextAvail before.queue,head,effects⟩])
    (counted : before.state.counters.ioErrors + effects.count .recordIoError ≤ after.state.counters.ioErrors)
    (phase : ∀ waitNanos, after.phase ≠ .returned (.throttleStalled waitNanos)) :
    Ordered api first errors after := by
  have kept : Turn.stalled ⟨api.nextAvail before.queue,head,effects⟩ = false := by
    simpa [Turn.stalled] using once.1
  have more : resolved after.turns = resolved before.turns ++ [⟨api.nextAvail before.queue,head,effects⟩] := by
    rw [turns,resolved]
    simp [kept,resolved]
  refine ⟨?_,?_,?_,?_,fun waitNanos stalled => absurd stalled (phase waitNanos)⟩
  · rw [cursor,more,length_append,ordered.cursor,UInt16.ofNat_add]
    exact UInt16.add_assoc _ _ _
  · rw [more,map_append,ordered.inOrder,length_append,length_singleton,ringFrom_succ]
    simp [ordered.cursor]
  · intro turn inside
    rw [turns,mem_append,mem_singleton] at inside
    rcases inside with inside | rfl
    · exact ordered.sound turn inside
    · exact ⟨fun _ => once.2,fun stalled => by rw [kept] at stalled; contradiction⟩
  · -- A settled chain that was not put on the used ring is the one case that must have counted an error.
    have charged : (if Turn.dropped ⟨api.nextAvail before.queue,head,effects⟩ then 1 else 0) ≤
        effects.count .recordIoError := by
      rcases once.2 with used | ⟨_,error⟩
      · simp [Turn.dropped,used]
      · have := count_pos_iff.mpr error
        split
        · exact this
        · exact Nat.zero_le _
    have := ordered.counted
    rw [turns,countP_append,countP_singleton]
    omega

theorem poison_ordered (lawful : api.Lawful) {first : UInt16} {errors : Nat} {before : Device Q}
    {queue : Q} {answer : Answer ω} {effect : Effect} {signalNeeded : Bool}
    (ordered : Ordered api first errors before) (cursor : api.nextAvail queue = api.nextAvail before.queue) :
    Ordered api first errors (poison api {before with queue := queue} answer effect signalNeeded) := by
  apply finish_ordered lawful
  refine quiet_ordered ordered cursor rfl ?_ (by simp)
  have total := record_ioErrors [effect] before.state.counters
  simp only [foldl_cons,foldl_nil] at total
  simp only [total]
  omega

theorem exhausted_ordered (lawful : api.Lawful) {first : UInt16} {errors : Nat} {before : Device Q}
    {queue : Q} {answer : Answer ω} {signalNeeded : Bool} (ordered : Ordered api first errors before)
    (cursor : api.nextAvail queue = api.nextAvail before.queue) :
    Ordered api first errors (exhausted api {before with queue := queue} answer signalNeeded) := by
  have enabled := (lawful.enabled answer.enable queue).trans cursor
  unfold exhausted
  dsimp only
  split
  · exact quiet_ordered ordered ((lawful.disabled _ _).trans enabled) rfl le_rfl (by simp)
  · apply finish_ordered lawful
    exact quiet_ordered ordered enabled rfl le_rfl (by simp)

theorem turn_ordered (lawful : api.Lawful) {first : UInt16} {errors : Nat} {before : Device Q} {answer : Answer ω}
    {signalNeeded : Bool} (ordered : Ordered api first errors before) :
    Ordered api first errors (turn api before answer signalNeeded) := by
  have popped := lawful.popped answer.pop before.queue
  have idle := lawful.idle answer.pop before.queue
  unfold turn
  split
  · rename_i queue taken
    rw [taken] at idle
    exact poison_ordered lawful ordered (idle (by simp))
  · rename_i queue taken
    rw [taken] at idle
    exact poison_ordered lawful ordered (idle (by simp))
  · rename_i queue taken
    rw [taken] at idle
    exact exhausted_ordered lawful ordered (idle (by simp))
  · rename_i queue chain taken
    rw [taken] at popped
    have advanced := popped chain rfl
    have ended := serveChain_ended api lawful before.state before.now answer queue chain
    generalize serveChain api before.state before.now answer queue chain = result at ended
    cases ended with
    | handedBack after state effects waitNanos cursor untouched same =>
      apply finish_ordered lawful
      refine handedBack_ordered before _ effects ordered untouched ?_ rfl ?_
      · simp only [lawful.enabled,cursor]
        simp [advanced]
      · simp only [record_ioErrors,same]
        omega
    | settled after state effects served cursor once kept same =>
      have moved := cursor.trans advanced
      have counted : before.state.counters.ioErrors + effects.count .recordIoError ≤
          (effects.foldl Counters.record state.counters).ioErrors := by
        rw [record_ioErrors,same]
      cases served with
      | published signal =>
        exact settled_ordered before _ effects ordered once moved rfl counted (by simp)
      | dropped =>
        exact settled_ordered before _ effects ordered once moved rfl counted (by simp)
      | stalled waitNanos => exact absurd rfl (kept waitNanos)

theorem step_ordered (lawful : api.Lawful) {first : UInt16} {errors : Nat} (before : Device Q) (event : Event ω)
    (ordered : Ordered api first errors before) : Ordered api first errors (step api before event) := by
  cases event with
  | call delay disable =>
    unfold step
    dsimp only
    split
    · exact ordered
    · split
      · exact quiet_ordered ordered rfl rfl le_rfl (by simp)
      · exact quiet_ordered ordered (lawful.disabled _ _) rfl le_rfl (by simp)
  | turn answer =>
    unfold step
    dsimp only
    split
    · exact turn_ordered lawful ordered
    · exact ordered

/-- A device between calls, before the first of the calls that are looked at. -/
def atRest (queue : Q) (state : BlkWorkerState) (deviceStatus interruptStatus : BitVec 32) (now : Nat) : Device Q :=
  ⟨queue,state,deviceStatus,interruptStatus,0,now,.returned .done,[]⟩

variable (api)

/-- Every run of calls, with every answer of guest memory, backing file and clock: each
position that was not handed back is resolved once, by one used-ring entry for its
head or by a drop that counted an error; resolutions are in ring order; the cursor is
the number of resolutions past its start; and a stalled call leaves it at a position
whose last turn did nothing outward. -/
theorem drain_resolves_in_ring_order (lawful : api.Lawful) (queue : Q) (state : BlkWorkerState)
    (deviceStatus interruptStatus : BitVec 32) (now : Nat) (events : List (Event ω)) :
    let final := run (step api) (atRest queue state deviceStatus interruptStatus now) events
    (∀ turn ∈ resolved final.turns,
      usedHeads turn.effects = [turn.head] ∨ usedHeads turn.effects = [] ∧ Effect.recordIoError ∈ turn.effects) ∧
    (∀ turn ∈ final.turns, Turn.stalled turn = true → ∀ effect ∈ turn.effects, outward effect = false) ∧
    (resolved final.turns).map Turn.position = ringFrom (api.nextAvail queue) (resolved final.turns).length ∧
    api.nextAvail final.queue = api.nextAvail queue + UInt16.ofNat (resolved final.turns).length ∧
    state.counters.ioErrors + final.turns.countP Turn.dropped ≤ final.state.counters.ioErrors ∧
    (∀ waitNanos, final.phase = .returned (.throttleStalled waitNanos) →
      ∃ turn, final.turns.getLast? = some turn ∧ Turn.stalled turn = true ∧
        turn.position = api.nextAvail final.queue) := by
  have fresh : Ordered api (api.nextAvail queue) state.counters.ioErrors
      (atRest queue state deviceStatus interruptStatus now) :=
    ⟨by simp [atRest,resolved],by simp [atRest,resolved,ringFrom],by simp [atRest],by simp [atRest],by simp [atRest]⟩
  have ordered := run_invariant (step api) _ (step_ordered lawful) _ events fresh
  refine ⟨?_,fun turn inside => (ordered.sound turn inside).untouched,ordered.inOrder,ordered.cursor,
    ordered.counted,ordered.pending⟩
  intro turn inside
  obtain ⟨member,kept⟩ := mem_filter.mp inside
  exact (ordered.sound turn member).settled (by simpa using kept)

end

/-! The split virtqueue, as the crate implements it. -/

structure Ring where
  ready : Bool
  size : UInt16
  nextAvail : UInt16
deriving DecidableEq

/-- Guest memory as one queue operation sees it: the avail index, the entry and the
descriptors at the cursor, whether a used-ring write lands, the suppression answer. -/
structure RingMemory where
  availIdx : Option UInt16
  entry : Option UInt16
  descriptors : List ChainDescriptor
  usedWritten : Bool
  notify : Option Bool

def splitRing : QueueApi Ring RingMemory where
  ready := Ring.ready
  nextAvail := Ring.nextAvail
  setNextAvail queue position := {queue with nextAvail := position}
  iterNext mem queue :=
    match mem.availIdx with
    | none => (queue,.error .other)
    | some idx =>
      if queue.size < idx - queue.nextAvail then (queue,.error .invalidAvailRingIndex)
      else if queue.nextAvail = idx then (queue,.ok none)
      else
        match mem.entry with
        | none => (queue,.ok none)
        | some head =>
          ({queue with nextAvail := queue.nextAvail + 1},
            .ok (some ⟨head,if head < queue.size then mem.descriptors else []⟩))
  addUsed mem queue head _ := (queue,decide (head < queue.size) && mem.usedWritten)
  disableNotification _ queue := queue
  enableNotification mem queue := (queue,mem.notify)
  needsNotification mem queue := (queue,mem.notify)

theorem splitRing_lawful : splitRing.Lawful where
  popped mem queue chain := by
    simp only [splitRing]
    split
    · simp
    split
    · simp
    split
    · simp
    split <;> simp
  idle mem queue := by
    simp only [splitRing]
    split
    · simp
    split
    · simp
    split
    · simp
    split <;> simp
  rewound _ _ := rfl
  used _ _ _ _ := rfl
  disabled _ _ := rfl
  enabled _ _ := rfl
  notified _ _ := rfl

def flushMemory : RingMemory :=
  ⟨some 1,some 3,[⟨4096,16,false⟩,⟨8192,1,true⟩],true,some false⟩

def flushAnswer : Answer RingMemory :=
  ⟨flushMemory,flushMemory,flushMemory,flushMemory,flushMemory,fun _ => some ⟨tFlush,0⟩,fun _ => true,
    ⟨fun _ _ => [],none,none,true,fun _ _ => true⟩,⟨0,0,0,0⟩⟩

def oneOpPerSecond : BlkWorkerState := ⟨.new 1 1 0,.mkUnlimited 0,4096,false,{},false,false⟩

/-- Two flushes from position 65535 on, with tokens for one: the first is completed
across the wrap of the index, the second is handed back. -/
theorem drain_second_flush_stalls :
    let final := run (step splitRing) (atRest ⟨true,8,65535⟩ oneOpPerSecond 15 0 0)
      [.call 0 flushMemory,.turn flushAnswer,.turn flushAnswer]
    (resolved final.turns).map Turn.position = [65535] ∧ final.queue.nextAvail = 0 ∧
      final.phase = .returned (.throttleStalled 1000000000) ∧
      ∃ turn, final.turns.getLast? = some turn ∧ turn.position = 0 := by
  intro final
  have sound := drain_resolves_in_ring_order splitRing splitRing_lawful ⟨true,8,65535⟩ oneOpPerSecond 15 0 0
    [.call 0 flushMemory,.turn flushAnswer,.turn flushAnswer]
  have length : (resolved final.turns).length = 1 := by decide
  have stalled : final.phase = .returned (.throttleStalled 1000000000) := by decide +kernel
  obtain ⟨_,_,inOrder,cursor,_,pending⟩ := sound
  obtain ⟨turn,last,_,position⟩ := pending 1000000000 stalled
  exact ⟨inOrder,cursor,stalled,turn,last,position.trans cursor⟩

end Ktstr.DrainOrder
