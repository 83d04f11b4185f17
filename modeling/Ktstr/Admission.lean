import Ktstr.Source.Drain

/-! One popped chain up to the throttle gate: what a chain must be to get there, and what becomes of one that does or does
not. -/
namespace Ktstr.Admission
open List Source.BlkRequest Source.Throttle Source.Drain Option

def fromHandler : Effect → Bool
  | .recordRead _ => true
  | .recordWrite _ => true
  | .recordFlush => true
  | .recordIoError => true
  | .backing => true
  | .guestWrite _ _ => true
  | _ => false

theorem failed_handled (before : List Effect) (quiet : ∀ effect ∈ before, fromHandler effect) :
    ∀ effect ∈ (failed before).1, fromHandler effect := by
  intro effect inside
  simp only [failed,mem_append,mem_singleton] at inside
  rcases inside with inside | rfl
  · exact quiet effect inside
  · rfl

variable (io : IoAnswer)

theorem zeroChunks_handled {addr : UInt64} {remaining : Nat} :
    ∀ effect ∈ (zeroChunks io addr remaining).1, fromHandler effect := by
  fun_induction zeroChunks io addr remaining with
  | case1 => simp
  | case2 addr remaining some chunk wrote fits effects ok rest ih =>
    intro effect inside
    rcases mem_cons.mp inside with rfl | inside
    · rfl
    · exact ih effect (by rw [rest]; exact inside)
  | case3 => simp [fromHandler]
  | case4 => simp

theorem zeroFill_handled {segs : List ChainDescriptor} {filled toZero : Nat} :
    ∀ effect ∈ (zeroFill io segs filled toZero).1, fromHandler effect := by
  fun_induction zeroFill io segs filled toZero with
  | case1 => simp
  | case2 => simp
  | case3 seg segs filled toZero more skip ih => exact ih
  | case4 seg segs filled toZero some under segRemaining fits effects more done rest wrote ih =>
    intro effect inside
    rcases mem_append.mp inside with inside | inside
    · exact zeroChunks_handled io effect (by rw [wrote]; exact inside)
    · exact ih effect (by rw [rest]; exact inside)
  | case5 seg segs filled toZero some under segRemaining fits effects ok wrote bad =>
    intro effect inside
    exact zeroChunks_handled io effect (by rw [wrote]; exact inside)
  | case6 => simp

variable (capacityBytes : Nat)

theorem read_handled {sector dataLen : Nat} {segs : List ChainDescriptor} :
    ∀ effect ∈ (handleReadVectoredImpl io capacityBytes sector segs dataLen).1, fromHandler effect := by
  unfold handleReadVectoredImpl
  split
  · exact failed_handled [] (by simp)
  split
  · exact failed_handled [] (by simp)
  split
  · exact failed_handled _ (by simp [fromHandler])
  rename_i called bytes asked
  have calls : ∀ effect ∈ called, fromHandler effect := by
    split at asked
    · cases asked
      simp
    · obtain ⟨r,_,same⟩ := map_eq_some_iff.mp asked
      cases same
      simp [fromHandler]
  have zeros : ∀ effect ∈ (if bytes < dataLen then zeroFill io segs bytes (dataLen - bytes) else ([],true)).1,
      fromHandler effect := by
    split
    · exact zeroFill_handled io
    · simp
  generalize (if bytes < dataLen then zeroFill io segs bytes (dataLen - bytes) else ([],true)) = filled at *
  obtain ⟨fill,ok⟩ := filled
  have both : ∀ effect ∈ called ++ fill, fromHandler effect := by
    intro effect inside
    rcases mem_append.mp inside with inside | inside
    · exact calls effect inside
    · exact zeros effect inside
  dsimp only
  split
  · intro effect inside
    rcases mem_append.mp inside with inside | inside
    · exact both effect inside
    · rw [mem_singleton.mp inside]
      rfl
  · exact failed_handled _ both

theorem write_handled {sector dataLen : Nat} {segs : List ChainDescriptor} :
    ∀ effect ∈ (handleWriteVectoredImpl io capacityBytes sector segs dataLen).1, fromHandler effect := by
  unfold handleWriteVectoredImpl
  split
  · exact failed_handled [] (by simp)
  split
  · exact failed_handled [] (by simp)
  split
  · simp [fromHandler]
  split
  · exact failed_handled _ (by simp [fromHandler])
  split
  · simp [fromHandler]
  · exact failed_handled _ (by simp [fromHandler])

theorem getId_handled {segs : List ChainDescriptor} :
    ∀ effect ∈ (handleGetIdImpl io segs).1, fromHandler effect := by
  unfold handleGetIdImpl
  split
  · exact failed_handled [] (by simp)
  split
  · exact failed_handled [] (by simp)
  split
  · exact failed_handled [] (by simp)
  split
  · simp [fromHandler]
  · exact failed_handled [] (by simp)

theorem dispatch_handled {dataLen : Nat} {hdr : OutHdr} {segs : List ChainDescriptor} :
    ∀ effect ∈ (dispatch io capacityBytes hdr segs dataLen).1, fromHandler effect := by
  unfold dispatch
  split
  · exact read_handled io capacityBytes
  split
  · exact write_handled io capacityBytes
  split
  · unfold handleFlushImpl
    split
    · simp [fromHandler]
    · exact failed_handled _ (by simp [fromHandler])
  split
  · exact getId_handled io
  · simp [fromHandler]

theorem classify_handled {reqType : UInt32} {readOnly : Bool} {effects : List Effect} {status : UInt8}
    {usedLen : UInt32} (early : classifyPreThrottle reqType readOnly = some (effects,status,usedLen)) :
    ∀ effect ∈ effects, fromHandler effect := by
  unfold classifyPreThrottle at early
  split at early
  · cases early
    simp [fromHandler]
  split at early
  · cases early
    simp [fromHandler]
  split at early
  · contradiction
  · cases early
    simp

section
variable {Q ω : Type} (api : QueueApi Q ω)

def admitted (readOnly : Bool) (answer : Answer ω) (chain : Chain) : Option (OutHdr × List ChainDescriptor) :=
  if scratchCap < chain.descriptors.length then none
  else
    match statusAddr chain.descriptors,(headerAddr chain.descriptors).bind answer.readHeader with
    | some _,some hdr =>
      let segs := (chain.descriptors.drop 1).dropLast
      if malformed hdr.type segs || (classifyPreThrottle hdr.type readOnly).isSome || directionViolation hdr.type segs then
        none
      else some (hdr,segs)
    | _,_ => none

def calm : Effect → Bool
  | .recordThrottlePendingInc => false
  | .recordThrottlePendingDec => false
  | _ => true

theorem calm_of_handler {effect : Effect} (handled : fromHandler effect) : calm effect := by
  cases effect <;> simp_all [fromHandler,calm]

theorem publish_calm {answer : Answer ω} {queue : Q} {head : UInt16} {addr : UInt64} {status : UInt8}
    {usedLen : UInt32} : ∀ effect ∈ (publishCompletion api answer queue head addr status usedLen).2.1, calm effect := by
  unfold publishCompletion
  split
  · split <;> simp [calm]
  · simp [calm]

structure Refused (state : BlkWorkerState) (result : Q × BlkWorkerState × List Effect × Served) : Prop where
  state : result.2.1 = state
  effects : ∀ effect ∈ result.2.2.1, calm effect = true
  served : ∀ waitNanos, result.2.2.2 ≠ .stalled waitNanos

theorem serveChain_refused {state : BlkWorkerState} (now : Nat) {answer : Answer ω} (queue : Q) {chain : Chain}
    (refused : admitted state.readOnly answer chain = none) :
    Refused state (serveChain api state now answer queue chain) := by
  have published (before : List Effect) (addr : UInt64) (status : UInt8) (usedLen : UInt32)
      (handled : ∀ effect ∈ before, fromHandler effect) :
      Refused state ((publishCompletion api answer queue chain.headIndex addr status usedLen).1,state,
        before ++ (publishCompletion api answer queue chain.headIndex addr status usedLen).2.1,
        .published (publishCompletion api answer queue chain.headIndex addr status usedLen).2.2) := by
    refine ⟨rfl,?_,by simp⟩
    intro effect inside
    rcases mem_append.mp inside with early | late
    · exact calm_of_handler (handled effect early)
    · exact publish_calm api effect late
  have dropped : Refused state (queue,state,[.recordIoError],.dropped) := ⟨rfl,by simp [calm],by simp⟩
  have rejected : ∀ effect ∈ [Effect.recordIoError], fromHandler effect := by simp [fromHandler]
  unfold serveChain
  unfold admitted at refused
  split
  · exact dropped
  next short =>
  rw [if_neg short] at refused
  split
  · exact dropped
  next status at_ =>
  rw [at_] at refused
  dsimp only
  split
  · exact published _ status _ _ rejected
  next header found =>
  rw [found,bind_some] at refused
  split
  · exact published _ status _ _ rejected
  next hdr read =>
  rw [read] at refused
  dsimp only at refused
  split
  · exact published _ status _ _ rejected
  next sound =>
  split
  · next early => exact published _ status _ _ (classify_handled early)
  next ordinary =>
  split
  · exact published _ status _ _ rejected
  next directed =>
  rw [ordinary,Bool.eq_false_of_not_eq_true sound,Bool.eq_false_of_not_eq_true directed] at refused
  cases refused

theorem admitted_some {readOnly : Bool} {answer : Answer ω} {chain : Chain} {hdr : OutHdr}
    {segs : List ChainDescriptor} (reached : admitted readOnly answer chain = some (hdr,segs)) :
    ¬ scratchCap < chain.descriptors.length ∧ segs = (chain.descriptors.drop 1).dropLast ∧
      (∃ status, statusAddr chain.descriptors = some status) ∧
      (∃ header, headerAddr chain.descriptors = some header ∧ answer.readHeader header = some hdr) ∧
      malformed hdr.type segs = false ∧ classifyPreThrottle hdr.type readOnly = none ∧
      directionViolation hdr.type segs = false := by
  unfold admitted at reached
  split at reached
  · cases reached
  next short =>
  split at reached
  next status hdr' at_ read =>
    obtain ⟨header,found,read⟩ := bind_eq_some_iff.mp read
    dsimp only at reached
    split at reached
    · cases reached
    next pass =>
      cases reached
      simp only [Bool.or_eq_true,not_or,Bool.not_eq_true,isSome_eq_false_iff,isNone_iff_eq_none] at pass
      exact ⟨short,rfl,⟨status,at_⟩,⟨header,found,read⟩,pass.1.1,pass.1.2,pass.2⟩
  · cases reached

theorem serveChain_admitted {state : BlkWorkerState} (now : Nat) {answer : Answer ω} (queue : Q) {chain : Chain}
    {hdr : OutHdr} {segs : List ChainDescriptor} (reached : admitted state.readOnly answer chain = some (hdr,segs)) :
    (serveChain api state now answer queue chain).2 =
      match throttleGate state now answer.delays (dataLen segs) with
      | (after,effects,some waitNanos) => (after,effects ++ [.rewind],.stalled waitNanos)
      | (after,effects,none) =>
        let (handled,statusByte,usedLen) := dispatch answer.io after.capacityBytes hdr segs (dataLen segs)
        let status := (statusAddr chain.descriptors).getD 0
        (after,effects ++ handled ++ (publishCompletion api answer queue chain.headIndex status statusByte usedLen).2.1,
          .published (publishCompletion api answer queue chain.headIndex status statusByte usedLen).2.2) := by
  obtain ⟨short,rfl,⟨status,at_⟩,⟨header,found,read⟩,sound,ordinary,directed⟩ :=
    admitted_some reached
  unfold serveChain
  rw [if_neg short,at_]
  rw [found]
  dsimp only
  rw [read]
  dsimp only
  rw [if_neg (Bool.not_eq_true _ ▸ sound),ordinary]
  rw [if_neg (Bool.not_eq_true _ ▸ directed)]
  rcases throttleGate state now answer.delays (dataLen (chain.descriptors.drop 1).dropLast) with ⟨after,effects,_ | waitNanos⟩
  · rfl
  · rfl

theorem finish_kept (self : Device Q) (answer : Answer ω) (signalNeeded : Bool) (outcome : DrainOutcome) :
    (finish api self answer signalNeeded outcome).state = self.state ∧
      (finish api self answer signalNeeded outcome).turns = self.turns ∧
      (finish api self answer signalNeeded outcome).phase = .returned outcome := by
  unfold finish
  split
  · exact ⟨rfl,rfl,rfl⟩
  · exact ⟨rfl,rfl,rfl⟩

def servedPhase (signal : Bool) : Served → Phase
  | .published more => .draining (signal || more)
  | .dropped => .draining signal
  | .stalled waitNanos => .returned (.throttleStalled waitNanos)

theorem turn_popped {device : Device Q} {answer : Answer ω} (signal : Bool) {queue : Q} {chain : Chain}
    (popped : api.iterNext answer.pop device.queue = (queue,.ok (some chain))) :
    let served := serveChain api device.state device.now answer queue chain
    let after := turn api device answer signal
    after.state = {served.2.1 with counters := served.2.2.1.foldl Counters.record served.2.1.counters} ∧
      after.turns = device.turns ++ [⟨api.nextAvail device.queue,chain.headIndex,served.2.2.1⟩] ∧
      after.phase = servedPhase signal served.2.2.2 := by
  intro served after
  have named : after = turn api device answer signal := rfl
  unfold turn at named
  rw [popped] at named
  dsimp only at named
  rw [named]
  split
  · next more ended => exact ⟨rfl,rfl,by rw [ended]; rfl⟩
  · next ended => exact ⟨rfl,rfl,by rw [ended]; rfl⟩
  · next waitNanos ended =>
    obtain ⟨state,turns,phase⟩ := finish_kept api {device with
      queue := (api.enableNotification answer.enable served.1).1
      state := {served.2.1 with counters := served.2.2.1.foldl Counters.record served.2.1.counters}
      now := device.now + answer.delays.total
      turns := device.turns ++ [⟨api.nextAvail device.queue,chain.headIndex,served.2.2.1⟩]} answer signal
      (.throttleStalled waitNanos)
    exact ⟨state,turns,phase.trans (by rw [ended]; rfl)⟩

end

end Ktstr.Admission
