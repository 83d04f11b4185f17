import Ktstr.BucketCalls
import Ktstr.DrainOrder
import Ktstr.RefillWindows

/-! Both buckets are asked before either is charged, and a refill in between only adds, so a turn of the drain charges
both or none. -/
namespace Ktstr.BucketCharges
open Source.BlkRequest Source.Throttle Source.Drain Library.Machine Library.Runs RefillWindows BucketCalls Admission
  DrainOrder TokenBucket

def Kept (bucket : TokenBucket) : Prop := bucket.unlimited = true ∨ Ranged bucket

def Refilled (before after : TokenBucket) : Prop := ∃ times, after = run TokenBucket.refill before times

structure Uncharged (before after : TokenBucket) : Prop where
  refilled : Refilled before after
  balance : before.available ≤ after.available

/-- Taken from once, by exactly `n`, whatever was refilled before; a bucket without a limit is left as it is. -/
def Charged (n : Nat) (before after : TokenBucket) : Prop :=
  if before.unlimited then after = before
  else ∃ refilled, Uncharged before refilled ∧ after = {refilled with available := refilled.available - n}

variable (bucket : TokenBucket) (now : Nat)

theorem Kept.refill (kept : Kept bucket) : Kept (bucket.refill now) := by
  rcases kept with unlimited | ranged
  · exact Or.inl ((refill_fields bucket now).1.trans unlimited)
  · exact Or.inr (ranged.refill bucket now)

variable {bucket}

theorem uncharged_refl : Uncharged bucket bucket := ⟨⟨[],rfl⟩,le_refl _⟩

theorem uncharged_refill (kept : Kept bucket) : Uncharged bucket (bucket.refill now) := by
  refine ⟨⟨[now],rfl⟩,?_⟩
  rcases kept with unlimited | ranged
  · simp [refill,unlimited]
  · exact ranged.refill_ge bucket now

theorem Uncharged.trans (first second third : TokenBucket) (left : Uncharged first second)
    (right : Uncharged second third) : Uncharged first third := by
  obtain ⟨⟨times,rfl⟩,low⟩ := left
  obtain ⟨⟨later,rfl⟩,high⟩ := right
  exact ⟨⟨times ++ later,(run_append _).symm⟩,low.trans high⟩

theorem Uncharged.kept (before after : TokenBucket) (uncharged : Uncharged before after) (kept : Kept before) :
    Kept after := by
  obtain ⟨⟨times,rfl⟩,_⟩ := uncharged
  exact run_invariant refill Kept (fun state now holds => holds.refill state now) before times kept

theorem canConsume_uncharged (n : Nat) (kept : Kept bucket) : Uncharged bucket (bucket.canConsume now n).1 := by
  by_cases easy : bucket.unlimited ∨ n = 0
  · have same : (bucket.canConsume now n).1 = bucket := by
      rcases easy with unlimited | zero
      · simp [canConsume,unlimited]
      · simp [canConsume,zero]
    rw [same]
    exact uncharged_refl
  · rw [not_or,Bool.not_eq_true] at easy
    rw [canConsume_eq now n easy.1 easy.2]
    exact uncharged_refill now kept

variable {now}

theorem nanos_uncharged {n : Nat} (kept : Kept bucket) : Uncharged bucket (bucket.nanosUntilNTokens now n).1 := by
  by_cases easy : bucket.unlimited ∨ n = 0
  · have same : (bucket.nanosUntilNTokens now n).1 = bucket := by
      rw [nanosUntilNTokens,if_pos easy]
    rw [same]
    exact uncharged_refl
  · rw [not_or,Bool.not_eq_true] at easy
    rw [nanos_eq now n easy.1 easy.2]
    exact uncharged_refill now kept

theorem consume_charged {later n : Nat} (kept : Kept bucket) (can : (bucket.canConsume now n).2) :
    Charged n bucket ((bucket.canConsume now n).1.consume later n).1 ∧
      Kept ((bucket.canConsume now n).1.consume later n).1 := by
  rw [Charged]
  split
  · next unlimited =>
    have same : ((bucket.canConsume now n).1.consume later n).1 = bucket := by
      simp [canConsume,consume,unlimited]
    rw [same]
    exact ⟨rfl,kept⟩
  next limited =>
  rw [Bool.not_eq_true] at limited
  by_cases zero : n = 0
  · have same : ((bucket.canConsume now n).1.consume later n).1 = bucket := by
      simp [canConsume,consume,zero]
    rw [same]
    exact ⟨⟨bucket,uncharged_refl,by simp [zero]⟩,kept⟩
  · have ranged : Ranged bucket := kept.resolve_left (by simp [limited])
    have after := ranged.refill bucket now
    have later_ := after.refill _ later
    have signed := canConsume_signed now n limited zero can
    have enough := (canConsume_granted now n limited zero signed).mp can
    have more := enough.trans (after.refill_ge _ later)
    have sameGate : gate (bucket.refill now) n = gate bucket n := by rw [gate,(refill_fields bucket now).2.1,gate]
    have solvent : 0 ≤ ((bucket.refill now).refill later).available := by
      rw [gate] at more
      split at more <;> omega
    have low : i64Min ≤ ((bucket.refill now).refill later).available - n := by
      rw [i64Min,i64Max] at *
      omega
    have exactly := saturateI64_of_range low ((Int.sub_le_self _ (Int.natCast_nonneg n)).trans
        (later_.ceiling.trans (min_le_right _ _)))
    rw [canConsume_eq now n limited zero,consume_eq later n after.limited zero signed,sameGate,if_pos more,exactly]
    refine ⟨⟨(bucket.refill now).refill later,?_,rfl⟩,Or.inr ⟨later_.limited,low,?_⟩⟩
    · exact (uncharged_refill now kept).trans _ _ _ (uncharged_refill later (Or.inr after))
    · exact (Int.sub_le_self _ (Int.natCast_nonneg n)).trans later_.ceiling

variable (now)

theorem stall_uncharged (later n : Nat) (kept : Kept bucket) :
    Uncharged bucket (if (!(bucket.canConsume now n).2) then (bucket.canConsume now n).1.nanosUntilNTokens later n
      else ((bucket.canConsume now n).1,0)).1 := by
  have asked := canConsume_uncharged now n kept
  split
  · exact asked.trans _ _ _ (nanos_uncharged (asked.kept _ _ kept))
  · exact asked

def GateCharges (bytes : Nat) (passed : Bool) (before after : BlkWorkerState) : Prop :=
  if passed then Charged 1 before.opsBucket after.opsBucket ∧ Charged bytes before.bytesBucket after.bytesBucket
  else Uncharged before.opsBucket after.opsBucket ∧ Uncharged before.bytesBucket after.bytesBucket

def BothKept (state : BlkWorkerState) : Prop := Kept state.opsBucket ∧ Kept state.bytesBucket

theorem throttleGate_charges {state : BlkWorkerState} {now : Nat} {delays : Delays} {bytes : Nat} (kept : BothKept state) :
    BothKept (throttleGate state now delays bytes).1 ∧
      GateCharges bytes (throttleGate state now delays bytes).2.2.isNone state (throttleGate state now delays bytes).1 := by
  obtain ⟨ops,data⟩ := kept
  unfold throttleGate
  dsimp only
  split
  · have opsStall := stall_uncharged (now + delays.opsCheck)
      (now + delays.opsCheck + delays.bytesCheck + delays.opsNext) 1 ops
    have bytesStall := stall_uncharged (now + delays.opsCheck + delays.bytesCheck)
      (now + delays.opsCheck + delays.bytesCheck + delays.opsNext + delays.bytesNext) bytes data
    exact ⟨⟨opsStall.kept _ _ ops,bytesStall.kept _ _ data⟩,opsStall,bytesStall⟩
  · next passed =>
    simp only [Bool.or_eq_true,Bool.not_eq_true',not_or,Bool.not_eq_false] at passed
    obtain ⟨opsCharged,opsKept⟩ := consume_charged
      ops passed.1
    obtain ⟨bytesCharged,bytesKept⟩ := consume_charged
      data passed.2
    exact ⟨⟨opsKept,bytesKept⟩,opsCharged,bytesCharged⟩

theorem throttleGate_capacity (state : BlkWorkerState) (now : Nat) (delays : Delays) (bytes : Nat) :
    (throttleGate state now delays bytes).1.capacityBytes = state.capacityBytes := by
  unfold throttleGate
  dsimp only
  split
  · rfl
  · rfl

section
variable {Q ω : Type} (api : QueueApi Q ω)

/-- The event is a turn that pops a chain and hands its request to a handler. -/
def Dispatches (device : Device Q) (event : Event ω) (io : IoAnswer) (hdr : OutHdr) (segs : List ChainDescriptor) : Prop :=
  ∃ answer signal queue chain, event = .turn answer ∧ answer.io = io ∧ device.phase = .draining signal ∧
    api.iterNext answer.pop device.queue = (queue,.ok (some chain)) ∧
    admitted device.state.readOnly answer chain = some (hdr,segs) ∧
    (throttleGate device.state device.now answer.delays (dataLen segs)).2.2 = none

theorem turn_idle {device : Device Q} {answer : Answer ω} (signal : Bool)
    (idle : ∀ queue chain, api.iterNext answer.pop device.queue ≠ (queue,.ok (some chain))) :
    (turn api device answer signal).state.opsBucket = device.state.opsBucket ∧
      (turn api device answer signal).state.bytesBucket = device.state.bytesBucket := by
  unfold turn
  split
  · rw [poison,(finish_kept api _ answer signal _).1]
    exact ⟨rfl,rfl⟩
  · rw [poison,(finish_kept api _ answer signal _).1]
    exact ⟨rfl,rfl⟩
  · unfold exhausted
    dsimp only
    split
    · exact ⟨rfl,rfl⟩
    · rw [(finish_kept api _ answer signal _).1]
      exact ⟨rfl,rfl⟩
  · next queue chain popped => exact absurd popped (idle queue chain)

theorem popped_charges {device : Device Q} {answer : Answer ω} (signal : Bool) {queue : Q} {chain : Chain}
    (popped : api.iterNext answer.pop device.queue = (queue,.ok (some chain))) (kept : BothKept device.state) :
    let after := turn api device answer signal
    BothKept after.state ∧
      match admitted device.state.readOnly answer chain with
      | none => GateCharges 0 false device.state after.state
      | some (hdr,segs) =>
        let passed := (throttleGate device.state device.now answer.delays (dataLen segs)).2.2.isNone
        GateCharges (dataLen segs) passed device.state after.state ∧
          (passed → ∃ last counted published, after.turns = device.turns ++ [last] ∧ last.effects = counted ++
              (dispatch answer.io device.state.capacityBytes hdr segs (dataLen segs)).1 ++ published) := by
  intro after
  obtain ⟨state,turns,_⟩ := turn_popped api signal popped
  have ops := congrArg BlkWorkerState.opsBucket state
  have bytes := congrArg BlkWorkerState.bytesBucket state
  split
  · next refused =>
    have same := (serveChain_refused api device.now queue refused).state
    rw [same] at ops bytes
    rw [BothKept,GateCharges,ops,bytes]
    exact ⟨kept,uncharged_refl,uncharged_refl⟩
  · next hdr segs reached =>
    have served := serveChain_admitted api device.now queue reached
    obtain ⟨both,charges⟩ := throttleGate_charges kept
    have capacity := throttleGate_capacity device.state device.now answer.delays (dataLen segs)
    dsimp only
    generalize throttleGate device.state device.now answer.delays (dataLen segs) = gated at *
    obtain ⟨passed,effects,_ | waitNanos⟩ := gated
    · rw [served] at ops bytes turns
      rw [BothKept,GateCharges,ops,bytes]
      dsimp only at capacity turns
      rw [capacity] at turns
      exact ⟨both,charges,fun _ => ⟨_,effects,_,turns,rfl⟩⟩
    · rw [served] at ops bytes
      rw [BothKept,GateCharges,ops,bytes]
      exact ⟨both,charges,by simp⟩

structure Charges (device : Device Q) (event : Event ω) : Prop where
  dispatched : ∀ io hdr segs, Dispatches api device event io hdr segs →
    GateCharges (dataLen segs) true device.state (step api device event).state ∧
      ∃ last counted published, (step api device event).turns = device.turns ++ [last] ∧
        last.effects = counted ++ (dispatch io device.state.capacityBytes hdr segs (dataLen segs)).1 ++ published
  otherwise : (∀ io hdr segs, ¬ Dispatches api device event io hdr segs) →
    GateCharges 0 false device.state (step api device event).state

theorem charges_of_same {device : Device Q} {event : Event ω} (kept : BothKept device.state)
    (calm : ∀ io hdr segs, ¬ Dispatches api device event io hdr segs)
    (ops : (step api device event).state.opsBucket = device.state.opsBucket)
    (bytes : (step api device event).state.bytesBucket = device.state.bytesBucket) :
    BothKept (step api device event).state ∧ Charges api device event := by
  rw [BothKept,ops,bytes]
  refine ⟨kept,fun io hdr segs dispatched => absurd dispatched (calm io hdr segs),fun _ => ?_⟩
  rw [GateCharges,ops,bytes]
  exact ⟨uncharged_refl,uncharged_refl⟩

theorem step_charges {device : Device Q} {event : Event ω} (kept : BothKept device.state) :
    BothKept (step api device event).state ∧ Charges api device event := by
  cases event with
  | call delay disable =>
    refine charges_of_same api kept (by simp [Dispatches]) ?_ ?_
    all_goals
      unfold step
      dsimp only
      split
      · rfl
      · split <;> rfl
  | turn answer =>
    cases phase : device.phase with
    | returned outcome =>
      refine charges_of_same api kept (by simp [Dispatches,phase]) ?_ ?_
      all_goals
        simp only [step,phase]
    | draining signal =>
      have turned : step api device (.turn answer) = turn api device answer signal := by simp only [step,phase]
      by_cases idle : ∀ queue chain, api.iterNext answer.pop device.queue ≠ (queue,.ok (some chain))
      · have same := turn_idle api signal idle
        rw [← turned] at same
        refine charges_of_same api kept ?_ same.1 same.2
        rintro io hdr segs ⟨_,_,queue,chain,named,_,_,popped,_⟩
        cases named
        exact idle queue chain popped
      · push Not at idle
        obtain ⟨queue,chain,popped⟩ := idle
        have charges := popped_charges api signal popped kept
        rw [← turned] at charges
        refine ⟨charges.1,?_,?_⟩
        · rintro io hdr segs ⟨_,_,queue',chain',same,rfl,_,popped',reached,passed⟩
          cases same
          cases popped.symm.trans popped'
          have done := charges.2
          rw [reached] at done
          dsimp only at done
          rw [passed] at done
          exact ⟨done.1,done.2 rfl⟩
        · intro calm
          have done := charges.2
          split at done
          · exact done
          · next hdr segs reached =>
            have stalled : (throttleGate device.state device.now answer.delays (dataLen segs)).2.2.isNone = false := by
              by_contra passed
              rw [Bool.not_eq_false,Option.isNone_iff_eq_none] at passed
              exact calm answer.io hdr segs ⟨answer,signal,queue,chain,rfl,rfl,phase,popped,reached,passed⟩
            rw [stalled] at done
            exact done.1

theorem bucketFor_kept {rate burst : Option {value : Nat // 0 < value}} {now : Nat} :
    Kept (bucketFor rate burst now) := by
  unfold bucketFor new
  split
  · exact Or.inl rfl
  · split
    · exact Or.inl rfl
    · refine Or.inr ⟨rfl,?_,?_⟩
      · dsimp only
        rw [tryI64_getD_eq,i64Min,i64Max]
        omega
      · simp only [tryI64_getD_eq,ceilingOf,le_refl]

/-- A worker as it is built from a disk's limits, with buckets filled at the time given. -/
def withThrottle (state : BlkWorkerState) (throttle : DiskThrottle) (created : Nat) : BlkWorkerState :=
  {state with
    opsBucket := (bucketsFromThrottle throttle created).1
    bytesBucket := (bucketsFromThrottle throttle created).2}

/-- In every run, a turn that hands a request to its handler takes one token and the request's bytes, and every other
event takes nothing. -/
theorem drain_charges_dispatched (throttle : DiskThrottle) (created : Nat) (queue : Q) (state : BlkWorkerState)
    (deviceStatus interruptStatus : BitVec 32) (now : Nat) (events : List (Event ω)) (event : Event ω) :
    Charges api (run (step api)
      (atRest queue (withThrottle state throttle created) deviceStatus interruptStatus now) events) event := by
  have kept := run_invariant (step api) (fun device => BothKept device.state)
    (fun device event kept => (step_charges api kept).1)
    (atRest queue (withThrottle state throttle created) deviceStatus interruptStatus now) events
    ⟨bucketFor_kept,bucketFor_kept⟩
  exact (step_charges api kept).2

end

example :
    (run (step splitRing) (atRest ⟨true,8,65535⟩ oneOpPerSecond 15 0 0)
      [.call 0 flushMemory,.turn flushAnswer]).state.opsBucket.available = 0 ∧
    (run (step splitRing) (atRest ⟨true,8,65535⟩ oneOpPerSecond 15 0 0)
      [.call 0 flushMemory,.turn flushAnswer,.turn flushAnswer]).state.opsBucket.available = 0 := by
  decide +kernel

end Ktstr.BucketCharges
