import Ktstr.StatusMachine
import Ktstr.TokenBudget

/-! Tokens granted over whole sessions of a throttled disk, resets included. Every reset
hands out full buckets, so the bound of a single bucket survives exactly the rebuilds
that find the tokens granted so far covered by the rate alone. -/
namespace Ktstr.ResetBudget
open Source.Registers Source.Drain Source.Throttle Source.BlkRequest Library.Accrual Library.Runs TokenBudget
  Metered Option StatusMachine
open StatusMachine (mmioWrite_engine)

inductive Dim
  | ops
  | bytes
deriving DecidableEq

def Dim.bucket : Dim → BlkWorkerState → TokenBucket
  | .ops,state => state.opsBucket
  | .bytes,state => state.bytesBucket

def Dim.rate : Dim → DiskThrottle → Option {rate : Nat // 0 < rate}
  | .ops,throttle => throttle.iops
  | .bytes,throttle => throttle.bytesPerSec

def Dim.burst : Dim → DiskThrottle → Option {burst : Nat // 0 < burst}
  | .ops,throttle => throttle.iopsBurstCapacity
  | .bytes,throttle => throttle.bytesBurstCapacity

def Dim.cap (dim : Dim) (throttle : DiskThrottle) (rate : {rate : Nat // 0 < rate}) : Nat :=
  ((dim.burst throttle).map Subtype.val).getD rate

def Dim.cost : Dim → Nat → Nat
  | .ops,_ => 1
  | .bytes,dataLen => dataLen

structure Tally where
  granted : Nat
  lastGrant : Nat

def Tally.add (self : Tally) (tokens : Nat) : Tally :=
  if tokens = 0 then self else ⟨self.granted + tokens,tokens⟩

/-- A device, the time, and what each limit has granted since the device was built. -/
structure Session (Q : Type) where
  device : VirtioBlk Q
  now : Nat
  tally : Dim → Tally

/-- The state a drain would work on: none while a stopped worker waits for DRIVER_OK. -/
def live : WorkerEngine → Option BlkWorkerState
  | .inline state => some state
  | .spawned worker _ => worker

def setLive : WorkerEngine → BlkWorkerState → WorkerEngine
  | .inline _,state => .inline state
  | .spawned _ pending,state => .spawned (some state) pending

/-- A guest register write, the worker's poison store, or one request at the throttle
gate of a drain; each comes some time after the one before. -/
inductive Event
  | write (delay offset : Nat) (data : List UInt8) (joined spawns : Bool) (races : Nat → Bool)
  | needsReset
  | request (delays : Delays) (dataLen : Nat)

section
variable {Q : Type} (api : QueueRegisters Q)

variable (self : Session Q)

def request (delays : Delays) (dataLen : Nat) : Session Q :=
  match live self.device.engine with
  | none => {self with now := self.now + delays.total}
  | some state =>
    let (after,effects,wait) := throttleGate state self.now delays dataLen
    let counted := {after with counters := effects.foldl Counters.record after.counters}
    {device := {self.device with engine := setLive self.device.engine counted},now := self.now + delays.total,
      tally := fun dim => if wait = none then (self.tally dim).add (dim.cost dataLen) else self.tally dim}

def step : Event → Session Q
  | .write delay offset data joined spawns races =>
    {self with
      device := mmioWrite api self.device offset data ⟨self.now + delay,joined,spawns,races⟩,
      now := self.now + delay}
  | .needsReset => {self with device := raiseNeedsReset self.device}
  | .request delays dataLen => request self delays dataLen

/-- The write rebuilds the buckets a drain will use: a reset of a test build, or the
DRIVER_OK that respawns the worker of a production build. -/
def Rebuilds : Event → Prop
  | .write _ offset data _ spawns races =>
    offset = offsetStatus ∧ data.length = 4 ∧
      (registerValue data = 0 ∧ (∃ state, self.device.engine = .inline state) ∨
        registerValue data = sFeat ||| driverOk ∧ self.device.deviceStatus = sFeat ∧ races 0 = false ∧
          spawns = true ∧ ∃ worker state, self.device.engine = .spawned worker (some state))
  | _ => False

def writeTime : Event → Nat
  | .write delay _ _ _ _ _ => self.now + delay
  | _ => self.now

/-- Where the event rebuilds the buckets, each limit has so far granted no more than its
rate alone has accrued. -/
def Covered (start : Nat) (self : Session Q) (event : Event) : Prop :=
  Rebuilds self event → ∀ (dim : Dim) (rate : {rate : Nat // 0 < rate}),
    dim.rate self.device.throttle = some rate →
    (self.tally dim).granted ≤ rate.val * (writeTime self event - start) / nanosPerSec

/-- What an unreset bucket guarantees: the capacity, the accrual since the start, and the
last grant when that one was over the capacity. -/
def WithinBudget (throttle : DiskThrottle) (dim : Dim) (rate : {rate : Nat // 0 < rate}) (start : Nat)
    (self : Session Q) : Prop :=
  (self.tally dim).granted ≤
    dim.cap throttle rate + rate.val * (self.now - start) / nanosPerSec +
      if (self.tally dim).lastGrant > dim.cap throttle rate then (self.tally dim).lastGrant else 0

instance (throttle : DiskThrottle) (dim : Dim) (rate : {rate : Nat // 0 < rate}) (start : Nat) (self : Session Q) :
    Decidable (WithinBudget throttle dim rate start self) :=
  inferInstanceAs (Decidable (_ ≤ _))

def meter (dim : Dim) (bucket : TokenBucket) : Metered :=
  ⟨bucket,self.now,(self.tally dim).granted,(self.tally dim).lastGrant⟩

/-- The ledger of the limit is sound for some bucket, the live one if there is one. -/
structure Funded (throttle : DiskThrottle) (dim : Dim) (rate : {rate : Nat // 0 < rate}) (start : Nat)
    (session : Session Q) : Prop where
  configured : session.device.throttle = throttle
  ledger : ∃ bucket, (meter session dim bucket).Good (dim.cap throttle rate) rate start ∧
    ∀ state, live session.device.engine = some state → dim.bucket state = bucket

end

/-- One bucket's part of a pass through the throttle gate: the check, then a charge, a
wait estimate or nothing, with time passing before, between and after. -/
def gated (meter : Metered) (first second third n : Nat) (pass ok : Bool) : Metered :=
  let checked := ((meter.wait first).perform (.canConsume n)).wait second
  (if pass then checked.perform (.consume n)
    else if ok then checked else checked.perform (.nanosUntilNTokens n)).wait third

variable (cap : Nat)

theorem gated_good (rate start : Nat) (meter : Metered) (first second third n : Nat) (pass ok : Bool)
    (good : meter.Good cap rate start) : (gated meter first second third n pass ok).Good cap rate start := by
  have checked := wait_good cap rate start second _
    (perform_good cap rate start _ (.canConsume n) (meter.wait_good cap rate start first good))
  apply wait_good
  split
  · exact perform_good cap rate start _ _ checked
  split
  · exact checked
  · exact perform_good cap rate start _ _ checked

theorem gated_pass {rate start : Nat} {meter : Metered} {first : Nat} (second third : Nat) {n : Nat}
    (good : meter.Good cap rate start)
    (ok : ((meter.wait first).bucket.canConsume (meter.wait first).now n).2) :
    (gated meter first second third n true true).granted = ((Tally.mk meter.granted meter.lastGrant).add n).granted ∧
      (gated meter first second third n true true).lastGrant =
        ((Tally.mk meter.granted meter.lastGrant).add n).lastGrant := by
  have taken : ((meter.bucket.canConsume (meter.now + first) n).1.consume (meter.now + first + second) n).2 :=
    consume_after_canConsume cap rate start (meter.wait_good cap rate start first good) ok
  by_cases zero : n = 0
  · subst zero
    simp [gated,wait,perform,Tally.add]
  · simp [gated,wait,perform,Tally.add,taken,zero]

theorem gated_stall (meter : Metered) (first second third n : Nat) (ok : Bool) :
    (gated meter first second third n false ok).granted = meter.granted ∧
      (gated meter first second third n false ok).lastGrant = meter.lastGrant := by
  cases ok <;> simp [gated,wait,perform]

theorem perform_now (meter : Metered) (call : Call) : (meter.perform call).now = meter.now := by
  cases call with
  | consume n =>
    simp only [perform]
    split <;> rfl
  | canConsume n => rfl
  | nanosUntilNTokens need => rfl

theorem gated_now (meter : Metered) (first second third n : Nat) (pass ok : Bool) :
    (gated meter first second third n pass ok).now = meter.now + first + second + third := by
  cases pass <;> cases ok <;> simp [gated,wait,perform_now]

/-- Time until a bucket is asked, from then until it is charged or asked for a wait,
and from then to the end of the gate. -/
def Dim.spans : Dim → Delays → Nat × Nat × Nat
  | .ops,delays => (delays.opsCheck,delays.bytesCheck + delays.opsNext,delays.bytesNext)
  | .bytes,delays => (delays.opsCheck + delays.bytesCheck,delays.opsNext + delays.bytesNext,0)

def Dim.answer (dim : Dim) (state : BlkWorkerState) (now : Nat) (delays : Delays) (dataLen : Nat) : Bool :=
  ((dim.bucket state).canConsume (now + (dim.spans delays).1) (dim.cost dataLen)).2

theorem throttleGate_passes (state : BlkWorkerState) (now : Nat) (delays : Delays) (dataLen : Nat) :
    (throttleGate state now delays dataLen).2.2 = none ↔
      ∀ dim : Dim, dim.answer state now delays dataLen := by
  have both : (∀ dim : Dim, dim.answer state now delays dataLen) ↔
      Dim.ops.answer state now delays dataLen ∧ Dim.bytes.answer state now delays dataLen :=
    ⟨fun all => ⟨all .ops,all .bytes⟩,fun two dim => by cases dim <;> [exact two.1;exact two.2]⟩
  rw [both]
  simp only [throttleGate,Dim.answer,Dim.bucket,Dim.spans,Dim.cost,← Nat.add_assoc]
  split
  · rename_i refused
    simp only [reduceCtorEq,false_iff]
    intro granted
    simp [granted.1,granted.2] at refused
  · rename_i granted
    simpa using granted

theorem consume_bucket (meter : Metered) (n : Nat) :
    (meter.perform (.consume n)).bucket = (meter.bucket.consume meter.now n).1 := by
  simp only [perform]
  split <;> rfl

variable (dim : Dim) (state : BlkWorkerState) (now : Nat) (delays : Delays) (dataLen : Nat)

theorem throttleGate_bucket (tally : Tally) : dim.bucket (throttleGate state now delays dataLen).1 =
      (gated (.mk (dim.bucket state) now tally.granted tally.lastGrant) (dim.spans delays).1 (dim.spans delays).2.1
        (dim.spans delays).2.2 (dim.cost dataLen) (decide ((throttleGate state now delays dataLen).2.2 = none))
        (dim.answer state now delays dataLen)).bucket := by
  cases ops : (state.opsBucket.canConsume (now + delays.opsCheck) 1).2 <;>
  cases bytes : (state.bytesBucket.canConsume (now + delays.opsCheck + delays.bytesCheck) dataLen).2 <;>
  cases dim <;>
  simp [throttleGate,gated,Dim.answer,Dim.spans,Dim.cost,Dim.bucket,wait,consume_bucket,ops,bytes,
    ← Nat.add_assoc] <;>
  simp [perform]

theorem throttleGate_good {tally : Tally} {cap rate start : Nat}
    (good : (mk (dim.bucket state) now tally.granted tally.lastGrant).Good cap rate start) :
    (mk (dim.bucket (throttleGate state now delays dataLen).1) (now + delays.total)
      (if (throttleGate state now delays dataLen).2.2 = none then tally.add (dim.cost dataLen) else tally).granted
      (if (throttleGate state now delays dataLen).2.2 = none then tally.add (dim.cost dataLen) else tally).lastGrant).Good
      cap rate start := by
  have kept := gated_good cap rate start _ (dim.spans delays).1 (dim.spans delays).2.1 (dim.spans delays).2.2
    (dim.cost dataLen) (decide ((throttleGate state now delays dataLen).2.2 = none))
    (dim.answer state now delays dataLen) good
  have bucket := throttleGate_bucket dim state now delays dataLen tally
  have elapsed := gated_now (.mk (dim.bucket state) now tally.granted tally.lastGrant) (dim.spans delays).1
    (dim.spans delays).2.1 (dim.spans delays).2.2 (dim.cost dataLen)
    (decide ((throttleGate state now delays dataLen).2.2 = none)) (dim.answer state now delays dataLen)
  have total : now + (dim.spans delays).1 + (dim.spans delays).2.1 + (dim.spans delays).2.2 = now + delays.total := by
    cases dim <;> simp only [Dim.spans,Delays.total] <;> omega
  rw [total] at elapsed
  by_cases passed : (throttleGate state now delays dataLen).2.2 = none
  · have ok := (throttleGate_passes state now delays dataLen).mp passed dim
    obtain ⟨granted,last⟩ := gated_pass cap (dim.spans delays).2.1
      (dim.spans delays).2.2 good ok
    simp only [passed,if_true] at kept bucket elapsed ⊢
    rw [bucket,← elapsed]
    rw [← granted,← last]
    exact kept
  · obtain ⟨granted,last⟩ := gated_stall (.mk (dim.bucket state) now tally.granted tally.lastGrant)
      (dim.spans delays).1 (dim.spans delays).2.1 (dim.spans delays).2.2 (dim.cost dataLen)
      (dim.answer state now delays dataLen)
    simp only [passed,decide_false,if_false] at kept bucket elapsed granted last ⊢
    rw [bucket,← elapsed]
    generalize gated _ _ _ _ _ false _ = after at kept granted last ⊢
    rw [← granted,← last]
    exact kept

theorem refund_good {rate start : Nat} {meter : Metered} (capPos : 0 < cap) (ratePos : 0 < rate)
    (good : meter.Good cap rate start) (covered : meter.granted ≤ accrued nanosPerSec rate (meter.now - start)) :
    Metered.Good cap rate start {meter with bucket := .new cap rate meter.now} := by
  have fresh := new_good cap rate meter.now capPos ratePos
  have opened : (TokenBucket.new cap rate meter.now).lastRefill = meter.now := by
    rw [TokenBucket.new,if_neg (by omega)]
  refine ⟨fresh.capacity,fresh.refillRate,fresh.limited,fresh.floor,fresh.ceiling,?_⟩
  have sound := Step.sound cap nanosPerSec rate start _ _
    (Step.refund meter.ledger (TokenBucket.new cap rate meter.now).available fresh.sound.capped covered) good.sound
  simpa only [ledger,opened] using sound

theorem cap_pos {throttle : DiskThrottle} {rate : {rate : Nat // 0 < rate}} : 0 < dim.cap throttle rate := by
  unfold Dim.cap
  cases dim.burst throttle with
  | none => exact rate.property
  | some burst => exact burst.property

theorem rebuild_bucket {throttle : DiskThrottle} {rate : {rate : Nat // 0 < rate}} {now : Nat}
    {state : BlkWorkerState} (limited : dim.rate throttle = some rate) :
    dim.bucket (rebuild throttle now state) = .new (dim.cap throttle rate) rate now := by
  cases dim <;> simp only [Dim.rate] at limited <;>
    simp [Dim.bucket,rebuild,bucketsFromThrottle,bucketFor,limited,Dim.cap,Dim.burst]

section
variable {Q : Type} (api : QueueRegisters Q) (throttle : DiskThrottle) (dim : Dim) (rate : {rate : Nat // 0 < rate})
  (start : Nat)

theorem request_funded {session : Session Q} {delays : Delays} {dataLen : Nat}
    (funded : Funded throttle dim rate start session) :
    Funded throttle dim rate start (request session delays dataLen) := by
  obtain ⟨configured,bucket,good,current⟩ := funded
  unfold request
  cases running : live session.device.engine with
  | none =>
    refine ⟨configured,bucket,wait_good _ _ _ delays.total _ good,?_⟩
    intro state alive
    rw [running] at alive
    contradiction
  | some state =>
    have own := current state running
    subst own
    have passed := throttleGate_good dim state session.now delays dataLen good
    refine ⟨configured,dim.bucket (throttleGate state session.now delays dataLen).1,passed,?_⟩
    intro after alive
    cases engine : session.device.engine with
    | inline old =>
      simp only [engine,setLive,live,some.injEq] at alive
      subst alive
      cases dim <;> rfl
    | spawned worker pending =>
      simp only [engine,setLive,live,some.injEq] at alive
      subst alive
      cases dim <;> rfl

theorem write_funded (limited : dim.rate throttle = some rate) {session : Session Q} {delay offset : Nat}
    {data : List UInt8} {joined spawns : Bool} {races : Nat → Bool}
    (covered : Covered start session (.write delay offset data joined spawns races))
    (funded : Funded throttle dim rate start session) :
    Funded throttle dim rate start (step api session (.write delay offset data joined spawns races)) := by
  obtain ⟨configured,bucket,good,current⟩ := funded
  have waited := wait_good _ _ _ delay _ good
  obtain ⟨same,engine⟩ := mmioWrite_engine api session.device
  -- A rebuild is paid for, so the fresh bucket takes over the ledger.
  have refilled : Rebuilds session (.write delay offset data joined spawns races) → ∀ state : BlkWorkerState,
      ∃ bucket, (meter (step api session (.write delay offset data joined spawns races)) dim bucket).Good
        (dim.cap throttle rate) rate start ∧ dim.bucket (rebuild throttle (session.now + delay) state) = bucket := by
    intro rebuilds state
    refine ⟨_,?_,rfl⟩
    rw [rebuild_bucket dim limited]
    exact refund_good _ (cap_pos dim) rate.property waited
      (covered rebuilds dim rate (configured ▸ limited))
  refine ⟨same.trans configured,?_⟩
  rcases engine with kept | ⟨zero,resets⟩ | ⟨⟨place,four,value,status,calm⟩,respawns⟩
  · exact ⟨bucket,waited,fun state alive => current state (by rw [← kept]; exact alive)⟩
  · simp only [step,resets]
    cases before : session.device.engine with
    | inline state =>
      obtain ⟨fresh,sound,own⟩ := refilled ⟨zero.1,zero.2.1,Or.inl ⟨zero.2.2,state,before⟩⟩ state
      refine ⟨fresh,sound,fun after alive => ?_⟩
      simp only [resetEngine,before,live,some.injEq,configured] at alive
      rw [← alive]
      exact own
    | spawned worker pending =>
      cases pending with
      | none =>
        refine ⟨bucket,waited,fun after alive => ?_⟩
        simp [resetEngine,before,live] at alive
      | some state =>
        refine ⟨bucket,waited,fun after alive => current after ?_⟩
        simpa [resetEngine,before] using alive
  · simp only [step,respawns]
    cases before : session.device.engine with
    | inline state =>
      refine ⟨bucket,waited,fun after alive => current after ?_⟩
      simpa [consumePendingRespawn,before] using alive
    | spawned worker pending =>
      cases pending with
      | none =>
        refine ⟨bucket,waited,fun after alive => current after ?_⟩
        simpa [consumePendingRespawn,before] using alive
      | some state =>
        cases spawns with
        | false =>
          refine ⟨bucket,waited,fun after alive => ?_⟩
          simp [consumePendingRespawn,before,live] at alive
        | true =>
          obtain ⟨fresh,sound,own⟩ :=
            refilled ⟨place,four,Or.inr ⟨value,status,calm,rfl,worker,state,before⟩⟩ state
          refine ⟨fresh,sound,fun after alive => ?_⟩
          simp only [consumePendingRespawn,before,live,if_true,some.injEq,configured] at alive
          rw [← alive]
          exact own

theorem step_funded (limited : dim.rate throttle = some rate) (session : Session Q) (event : Event)
    (covered : Covered start session event) (funded : Funded throttle dim rate start session) :
    Funded throttle dim rate start (step api session event) := by
  cases event with
  | write delay offset data joined spawns races =>
    exact write_funded api throttle dim rate start limited covered funded
  | needsReset => exact ⟨funded.configured,funded.ledger⟩
  | request delays dataLen => exact request_funded throttle dim rate start funded

def opened (build : Build) (queue : Q) (capacityBytes : Nat) (throttle : DiskThrottle) (readOnly : Bool)
    (start : Nat) : Session Q :=
  ⟨withOptions build queue capacityBytes throttle readOnly start,start,fun _ => ⟨0,0⟩⟩

theorem opened_funded (limited : dim.rate throttle = some rate) {build : Build} {queue : Q}
    {capacityBytes : Nat} {readOnly : Bool} :
    Funded throttle dim rate start (opened build queue capacityBytes throttle readOnly start) := by
  refine ⟨by cases build <;> rfl,_,new_good _ _ start (cap_pos dim) rate.property,?_⟩
  intro state alive
  cases build with
  | test =>
    simp only [opened,withOptions,live,some.injEq] at alive
    subst alive
    cases dim <;> simp only [Dim.rate] at limited <;>
      simp [Dim.bucket,bucketsFromThrottle,bucketFor,limited,Dim.cap,Dim.burst]
  | production => simp [opened,withOptions,live] at alive

end

/-! One operation per second. -/

def oneIops : DiskThrottle := ⟨some ⟨1,Nat.one_pos⟩,none,none,none⟩

def calmWrite (delay offset : Nat) (data : List UInt8) : Event := .write delay offset data true true fun _ => false

def probe : List Event :=
  [calmWrite 0 0x70 [1,0,0,0],calmWrite 0 0x70 [3,0,0,0],calmWrite 0 0x24 [1,0,0,0],calmWrite 0 0x20 [1,0,0,0],
    calmWrite 0 0x70 [11,0,0,0],calmWrite 0 0x44 [1,0,0,0],calmWrite 0 0x70 [15,0,0,0]]

def flushRequest : Event := .request ⟨0,0,0,0⟩ 0

/-- Probe, one request, reset after the given time, probe again, one more request. -/
def resetBetween (delay : Nat) : List Event :=
  probe ++ flushRequest::calmWrite delay 0x70 [0,0,0,0]::(probe ++ [flushRequest])

def oneIopsDisk (build : Build) : Session StatusMachine.QueueState :=
  opened build ⟨256,256,false,0,0,0,false⟩ 4096 oneIops false 0

end Ktstr.ResetBudget
