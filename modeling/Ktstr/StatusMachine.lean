import Ktstr.Library.Bits
import Ktstr.Library.Runs
import Ktstr.Source.Registers

/-! The status state machine under every sequence of guest register writes and every
interleaving of the worker's NEEDS_RESET store. -/
namespace Ktstr.StatusMachine
open Source.Registers Source.Drain Source.Throttle Source.BlkRequest Library.Bits Library.Runs Library.Bytes BitVec

inductive Event
  | write (offset : Nat) (data : List UInt8) (host : Host)
  | needsReset

section
variable {Q : Type} (api : QueueRegisters Q)

def step (self : VirtioBlk Q) : Event → VirtioBlk Q
  | .write offset data host => mmioWrite api self offset data host
  | .needsReset => raiseNeedsReset self

def Event.IsReset : Event → Prop
  | .write offset data _ => offset = offsetStatus ∧ data.length = 4 ∧ registerValue data = 0
  | .needsReset => False

def FeaturesAccepted (self : VirtioBlk Q) : Prop :=
  self.driverFeatures &&& fVersion1 ≠ 0 ∧ self.driverFeatures &&& ~~~deviceFeatures self = 0

variable (self : VirtioBlk Q)

variable {self}

theorem validTransition_bits {current newBits : BitVec 32} (valid : validTransition self current newBits) :
    newBits = acknowledge ∧ current = 0 ∨ newBits = driver ∧ current = sAck ∨
      newBits = featuresOk ∧ current = sDrv ∧ FeaturesAccepted self ∨ newBits = driverOk ∧ current = sFeat := by
  unfold validTransition at valid
  split at valid
  · exact Or.inl ⟨by assumption,by simpa using valid⟩
  split at valid
  · exact Or.inr (Or.inl ⟨by assumption,by simpa using valid⟩)
  split at valid
  · simp only [Bool.and_eq_true,beq_iff_eq,bne_iff_ne] at valid
    exact Or.inr (Or.inr (Or.inl ⟨by assumption,valid.1.1,valid.1.2,valid.2⟩))
  split at valid
  · exact Or.inr (Or.inr (Or.inr ⟨by assumption,by simpa using valid⟩))
  · contradiction

theorem newBits_six {current newBits : BitVec 32}
    (tried : newBits = statusFailed ∨ validTransition self current newBits) : newBits.getLsbD 6 = false := by
  rcases tried with rfl | valid
  · decide
  · rcases validTransition_bits valid with ⟨rfl,_⟩ | ⟨rfl,_⟩ | ⟨rfl,_⟩ | ⟨rfl,_⟩ <;> decide

theorem raced_uncovered {val current : BitVec 32}
    (quiet : (val &&& ~~~current).getLsbD 6 = false) (moved : current ||| statusNeedsReset ≠ current) :
    val &&& (current ||| statusNeedsReset) ≠ current ||| statusNeedsReset := by
  intro covered
  apply moved
  have whole := congrArg (fun v : BitVec 32 => v.getLsbD 6) covered
  have low : current.getLsbD 6 := by
    simp only [getLsbD_and,getLsbD_or] at whole quiet
    have bit : statusNeedsReset.getLsbD 6 := by decide
    cases one : val.getLsbD 6 <;> cases two : current.getLsbD 6 <;> simp_all
  have mask : statusNeedsReset = twoPow 32 6 := by decide
  have same : current &&& statusNeedsReset = statusNeedsReset := by
    rw [mask,and_twoPow,low,if_pos rfl]
  rw [← same]
  ext i inside
  simp only [getElem_or,getElem_and]
  cases current[i] <;> simp

variable (self)

/-- Everything one status write can do: nothing, lose to the worker's store, record
FAILED, or commit one step of the handshake. -/
inductive StatusWritten (host : Host) (val : BitVec 32) (self : VirtioBlk Q) : VirtioBlk Q × Nat → Prop
  | rejected : StatusWritten host val self (self,0)
  | raced : StatusWritten host val self (raiseNeedsReset self,1)
  | failed (adds : val = self.deviceStatus ||| statusFailed) :
      StatusWritten host val self ({self with deviceStatus := val},1)
  | committed (newBits : BitVec 32) (adds : val = self.deviceStatus ||| newBits)
      (valid : validTransition self self.deviceStatus newBits = true)
      (calm : (if host.races 0 then self.deviceStatus ||| statusNeedsReset else self.deviceStatus) =
        self.deviceStatus) :
      StatusWritten host val self (committed api {self with deviceStatus := val} host newBits,1)

theorem setStatus_written (host : Host) (val : BitVec 32) (self : VirtioBlk Q) :
    StatusWritten api host val self (setStatus api host val self) := by
  unfold setStatus
  rw [show maxCasRetries - 1 = 2 + 1 from rfl,setStatusLoop.eq_def]
  by_cases covers : val &&& self.deviceStatus = self.deviceStatus
  case neg =>
    rw [if_pos covers]
    exact .rejected
  rw [if_neg (not_not.mpr covers)]
  dsimp only
  split
  · exact .rejected
  split
  case isFalse => exact .rejected
  rename_i tried
  have adds := eq_or_of_covers covers
  by_cases still : (if host.races 0 then self.deviceStatus ||| statusNeedsReset else self.deviceStatus) =
      self.deviceStatus
  · rw [if_pos still]
    split
    · rename_i failed
      rw [failed] at adds
      exact .failed adds
    · rename_i advances
      exact .committed _ adds (tried.resolve_left advances) still
  · rw [if_neg still]
    have raised : (if host.races 0 then self.deviceStatus ||| statusNeedsReset else self.deviceStatus) =
        self.deviceStatus ||| statusNeedsReset := by
      split
      · rfl
      · rename_i calm
        simp [calm] at still
    rw [raised] at still ⊢
    have beyond := raced_uncovered (newBits_six tried) still
    rw [setStatusLoop.eq_def,if_pos beyond]
    exact .raced

inductive Written (self : VirtioBlk Q) (offset : Nat) (data : List UInt8) (host : Host) : VirtioBlk Q → Prop
  | reset (zero : Event.IsReset (.write offset data host)) :
      Written self offset data host (reset api self host)
  | status (place : offset = offsetStatus) (four : data.length = 4) (nonzero : registerValue data ≠ 0) :
      Written self offset data host (setStatus api host (registerValue data) self).1
  | features (val : BitVec 32) : Written self offset data host (writeDriverFeatures self val)
  | queue (change : Q → Q) : Written self offset data host (configureQueue self change)
  | other (after : VirtioBlk Q) (status : after.deviceStatus = self.deviceStatus)
      (features : after.driverFeatures = self.driverFeatures) (queue : after.queue = self.queue)
      (engine : after.engine = self.engine) (throttle : after.throttle = self.throttle) :
      Written self offset data host after

theorem mmioWrite_written (offset : Nat) (data : List UInt8) (host : Host) :
    Written api self offset data host (mmioWrite api self offset data host) := by
  have ignored : Written api self offset data host self := .other self rfl rfl rfl rfl rfl
  unfold mmioWrite
  split
  · exact ignored
  split
  · exact ignored
  have four : data.length = 4 := by omega
  dsimp only
  split
  · exact .other _ rfl rfl rfl rfl rfl
  · exact .other _ rfl rfl rfl rfl rfl
  · exact .features _
  · exact .other _ rfl rfl rfl rfl rfl
  · exact .queue _
  · exact .queue _
  · exact .other _ rfl rfl rfl rfl rfl
  · split
    · rename_i zero
      exact .reset ⟨rfl,four,zero⟩
    · rename_i nonzero
      exact .status rfl four nonzero
  · exact .queue _
  · exact .queue _
  · exact .queue _
  · exact .queue _
  · exact .queue _
  · exact .queue _
  · exact ignored

theorem committed_frame (lawful : api.Lawful) (self : VirtioBlk Q) (host : Host) (newBits : BitVec 32) :
    (committed api self host newBits).deviceStatus = self.deviceStatus ∧
      (committed api self host newBits).driverFeatures = self.driverFeatures ∧
      api.layout (committed api self host newBits).queue = api.layout self.queue := by
  unfold committed
  split
  · exact ⟨rfl,rfl,lawful.eventIdx _ _⟩
  split
  · unfold consumePendingRespawn
    split <;> exact ⟨rfl,rfl,rfl⟩
  · exact ⟨rfl,rfl,rfl⟩

inductive Added (self : VirtioBlk Q) (event : Event) : BitVec 32 → Prop
  | nothing : Added self event 0
  | raised : Added self event statusNeedsReset
  | failed (offset : Nat) (data : List UInt8) (host : Host) (written : event = .write offset data host)
      (adds : registerValue data = self.deviceStatus ||| statusFailed) : Added self event statusFailed
  | committed (newBits : BitVec 32) (valid : validTransition self self.deviceStatus newBits = true) :
      Added self event newBits

inductive Moved (self : VirtioBlk Q) (event : Event) (after : VirtioBlk Q) : Prop
  | reset (zero : event.IsReset) (status : after.deviceStatus = 0)
  | added (newBits : BitVec 32) (cause : Added self event newBits) (status : after.deviceStatus = self.deviceStatus ||| newBits)
      (features : after.driverFeatures = self.driverFeatures) (layout : api.layout after.queue = api.layout self.queue)
  | features (allowed : featuresWriteAllowed self = true) (status : after.deviceStatus = self.deviceStatus)
      (layout : api.layout after.queue = api.layout self.queue)
  | queue (allowed : queueConfigAllowed self = true) (status : after.deviceStatus = self.deviceStatus)
      (features : after.driverFeatures = self.driverFeatures)

variable {api}

theorem step_moved (lawful : api.Lawful) (self : VirtioBlk Q) (event : Event) :
    Moved api self event (step api self event) := by
  have still (after : VirtioBlk Q) (status : after.deviceStatus = self.deviceStatus)
      (features : after.driverFeatures = self.driverFeatures) (queue : after.queue = self.queue) : Moved api self event after :=
    .added 0 .nothing (status.trans or_zero.symm) features (congrArg api.layout queue)
  cases event with
  | needsReset => exact .added _ .raised rfl rfl rfl
  | write offset data host =>
    have written := mmioWrite_written api self offset data host
    rw [step]
    generalize mmioWrite api self offset data host = after at written
    cases written with
    | reset zero => exact .reset zero rfl
    | status place four nonzero =>
      have stored := setStatus_written api host (registerValue data) self
      generalize setStatus api host (registerValue data) self = result at stored
      cases stored with
      | rejected => exact still _ rfl rfl rfl
      | raced => exact .added _ .raised rfl rfl rfl
      | failed adds => exact .added _ (.failed offset data host rfl adds) adds rfl rfl
      | committed newBits adds valid calm =>
        obtain ⟨status,features,layout⟩ := committed_frame api lawful {self with deviceStatus := registerValue data} host newBits
        exact .added newBits (.committed newBits valid) (status.trans adds) features layout
    | features val =>
      unfold writeDriverFeatures
      split_ifs with allowed low high
      · exact .features allowed rfl rfl
      · exact .features allowed rfl rfl
      · exact still _ rfl rfl rfl
      · exact still _ rfl rfl rfl
    | queue change =>
      unfold configureQueue
      split_ifs with allowed
      · exact .queue allowed.1 rfl rfl
      · exact still _ rfl rfl rfl
    | other after status features queue engine throttle => exact still _ status features queue

theorem step_grows (lawful : api.Lawful) {self : VirtioBlk Q} {event : Event} (running : ¬ event.IsReset) :
    self.deviceStatus &&& (step api self event).deviceStatus = self.deviceStatus := by
  cases step_moved lawful self event with
  | reset zero status => exact absurd zero running
  | added newBits cause status features layout =>
    rw [status]
    exact and_or_self
  | features allowed status layout =>
    rw [status]
    exact and_self
  | queue allowed status features =>
    rw [status]
    exact and_self

variable (status : BitVec 32)

theorem has_featuresOk : status &&& featuresOk ≠ 0 ↔ status.getLsbD 3 :=
  and_twoPow_ne_zero status 3 (by decide)

theorem has_driverOk : status &&& driverOk ≠ 0 ↔ status.getLsbD 2 :=
  and_twoPow_ne_zero status 2 (by decide)

theorem has_needsReset : status &&& statusNeedsReset ≠ 0 ↔ status.getLsbD 6 :=
  and_twoPow_ne_zero status 6 (by decide)

theorem raise_poisoned (poisoned : status &&& statusNeedsReset ≠ 0) : status ||| statusNeedsReset = status := by
  have mask : statusNeedsReset = twoPow 32 6 := by decide
  have same : status &&& statusNeedsReset = statusNeedsReset := by
    rw [mask,and_twoPow,(has_needsReset status).mp poisoned,if_pos rfl]
  have covered := eq_or_of_covers same
  rw [covered]
  ext i inside
  simp only [getElem_or,getElem_and]
  cases statusNeedsReset[i] <;> simp

theorem step_poisoned (lawful : api.Lawful) {self : VirtioBlk Q} {offset : Nat} {data : List UInt8} {host : Host}
    (poisoned : self.deviceStatus &&& statusNeedsReset ≠ 0) (running : ¬ Event.IsReset (.write offset data host)) :
    (step api self (.write offset data host)).deviceStatus = self.deviceStatus ∨
      registerValue data = self.deviceStatus ||| statusFailed ∧
        (step api self (.write offset data host)).deviceStatus = self.deviceStatus ||| statusFailed := by
  cases step_moved lawful self (.write offset data host) with
  | reset zero status => exact absurd zero running
  | added newBits cause status features layout =>
    rw [status]
    cases cause with
    | nothing => exact Or.inl or_zero
    | raised => exact Or.inl (raise_poisoned _ poisoned)
    | failed _ other _ written adds =>
      cases written
      exact Or.inr ⟨adds,rfl⟩
    | committed newBits valid =>
      rcases validTransition_bits valid with
        ⟨_,current⟩ | ⟨_,current⟩ | ⟨_,current,_⟩ | ⟨_,current⟩ <;>
      · rw [current] at poisoned
        exact absurd (by decide) poisoned
  | features allowed status layout => exact Or.inl status
  | queue allowed status features => exact Or.inl status

theorem step_layout (lawful : api.Lawful) {self : VirtioBlk Q} {event : Event}
    (changed : api.layout (step api self event).queue ≠ api.layout self.queue) :
    event.IsReset ∨ self.deviceStatus &&& featuresOk ≠ 0 ∧ self.deviceStatus &&& driverOk = 0 := by
  cases step_moved lawful self event with
  | reset zero status => exact Or.inl zero
  | added newBits cause status features layout => exact absurd layout changed
  | features allowed status layout => exact absurd layout changed
  | queue allowed status features =>
    simp only [queueConfigAllowed,Bool.and_eq_true,beq_iff_eq] at allowed
    refine Or.inr ⟨(has_featuresOk _).mpr ?_,allowed.2⟩
    have bit := congrArg (fun status : BitVec 32 => status.getLsbD 3) allowed.1
    have set : sFeat.getLsbD 3 := by decide
    simpa only [getLsbD_and,set,Bool.and_true] using bit

theorem step_commits (lawful : api.Lawful) {self : VirtioBlk Q} {event : Event}
    (before : self.deviceStatus.getLsbD 3 = false) (after : (step api self event).deviceStatus.getLsbD 3) :
    FeaturesAccepted self ∧ (step api self event).driverFeatures = self.driverFeatures := by
  cases step_moved lawful self event with
  | reset zero status => exact absurd after (by simp [status])
  | added newBits cause status features layout =>
    refine ⟨?_,features⟩
    rw [status,getLsbD_or,before] at after
    cases cause with
    | nothing => exact absurd after (by decide)
    | raised => exact absurd after (by decide)
    | failed => exact absurd after (by decide)
    | committed newBits valid =>
      rcases validTransition_bits valid with ⟨rfl,_⟩ | ⟨rfl,_⟩ | ⟨_,_,accepted⟩ | ⟨rfl,_⟩
      · exact absurd after (by decide)
      · exact absurd after (by decide)
      · exact accepted
      · exact absurd after (by decide)
  | features allowed status layout =>
    rw [status,before] at after
    contradiction
  | queue allowed status features =>
    rw [status,before] at after
    contradiction

theorem step_features (lawful : api.Lawful) {self : VirtioBlk Q} {event : Event}
    (before : self.deviceStatus.getLsbD 3) (after : (step api self event).deviceStatus.getLsbD 3) :
    (step api self event).driverFeatures = self.driverFeatures := by
  cases step_moved lawful self event with
  | reset zero status => exact absurd after (by simp [status])
  | added newBits cause status features layout => exact features
  | features allowed status layout =>
    simp only [featuresWriteAllowed,Bool.and_eq_true,beq_iff_eq] at allowed
    exact absurd allowed.2 ((has_featuresOk _).mpr before)
  | queue allowed status features => exact features

theorem step_driverOk (lawful : api.Lawful) {self : VirtioBlk Q} {event : Event}
    (before : self.deviceStatus.getLsbD 2 → self.deviceStatus.getLsbD 3)
    (after : (step api self event).deviceStatus.getLsbD 2) :
    (step api self event).deviceStatus.getLsbD 3 := by
  cases step_moved lawful self event with
  | reset zero status => exact absurd after (by simp [status])
  | added newBits cause status features layout =>
    rw [status,getLsbD_or] at after ⊢
    have quiet (low : newBits.getLsbD 2 = false) : (self.deviceStatus.getLsbD 3 || newBits.getLsbD 3) := by
      rw [low,Bool.or_false] at after
      rw [before after,Bool.true_or]
    cases cause with
    | nothing => exact quiet (by decide)
    | raised => exact quiet (by decide)
    | failed => exact quiet (by decide)
    | committed newBits valid =>
      rcases validTransition_bits valid with ⟨rfl,_⟩ | ⟨rfl,_⟩ | ⟨rfl,_⟩ | ⟨rfl,current⟩
      · exact quiet (by decide)
      · exact quiet (by decide)
      · exact quiet (by decide)
      · rw [current]
        decide
  | features allowed status layout =>
    rw [status] at after ⊢
    exact before after
  | queue allowed status features =>
    rw [status] at after ⊢
    exact before after

theorem committed_engine (host : Host) (newBits : BitVec 32) :
    (committed api self host newBits).throttle = self.throttle ∧
      ((committed api self host newBits).engine = self.engine ∨
        newBits = driverOk ∧ (committed api self host newBits).engine = (consumePendingRespawn self host).engine) := by
  unfold committed
  split
  · exact ⟨rfl,Or.inl rfl⟩
  split
  · rename_i ready
    refine ⟨?_,Or.inr ⟨ready,rfl⟩⟩
    unfold consumePendingRespawn
    split <;> rfl
  · exact ⟨rfl,Or.inl rfl⟩

variable (api)

theorem mmioWrite_engine {offset : Nat} {data : List UInt8} {host : Host} :
    (mmioWrite api self offset data host).throttle = self.throttle ∧
      ((mmioWrite api self offset data host).engine = self.engine ∨ Event.IsReset (.write offset data host) ∧
          (mmioWrite api self offset data host).engine = resetEngine self host ∨
        (offset = offsetStatus ∧ data.length = 4 ∧ registerValue data = sFeat ||| driverOk ∧
            self.deviceStatus = sFeat ∧ host.races 0 = false) ∧
          (mmioWrite api self offset data host).engine = (consumePendingRespawn self host).engine) := by
  have written := mmioWrite_written api self offset data host
  generalize mmioWrite api self offset data host = after at written
  cases written with
  | reset zero => exact ⟨rfl,Or.inr (Or.inl ⟨zero,rfl⟩)⟩
  | status place four _ =>
    have stored := setStatus_written api host (registerValue data) self
    generalize setStatus api host (registerValue data) self = result at stored
    cases stored with
    | rejected => exact ⟨rfl,Or.inl rfl⟩
    | raced => exact ⟨rfl,Or.inl rfl⟩
    | failed adds => exact ⟨rfl,Or.inl rfl⟩
    | committed newBits adds valid calm =>
      obtain ⟨throttle,same | ⟨rfl,respawned⟩⟩ :=
        committed_engine {self with deviceStatus := registerValue data} host newBits
      · exact ⟨throttle,Or.inl same⟩
      · rcases validTransition_bits valid with ⟨bit,_⟩ | ⟨bit,_⟩ | ⟨bit,_⟩ | ⟨_,current⟩
        · exact absurd bit (by decide)
        · exact absurd bit (by decide)
        · exact absurd bit (by decide)
        · rw [current] at adds calm
          have quiet : host.races 0 = false := by
            cases raced : host.races 0 with
            | false => rfl
            | true =>
              rw [raced] at calm
              exact absurd calm (by decide)
          refine ⟨throttle,Or.inr (Or.inr ⟨⟨place,four,adds,current,quiet⟩,respawned.trans ?_⟩)⟩
          unfold consumePendingRespawn
          dsimp only
          split <;> rfl
  | features val =>
    unfold writeDriverFeatures
    split
    · split
      · exact ⟨rfl,Or.inl rfl⟩
      · split <;> exact ⟨rfl,Or.inl rfl⟩
    · exact ⟨rfl,Or.inl rfl⟩
  | queue change =>
    unfold configureQueue
    split <;> exact ⟨rfl,Or.inl rfl⟩
  | other after _ _ _ engine throttle => exact ⟨throttle,Or.inl engine⟩

/-- FEATURES_OK was committed by the event after the ones before it, on features the
device accepts, and throughout the events since it stayed set and they stayed as they were. -/
structure CommittedAt (start : VirtioBlk Q) (before : List Event) (event : Event) (since : List Event) : Prop where
  unset : (run (step api) start before).deviceStatus &&& featuresOk = 0
  accepted : FeaturesAccepted (run (step api) start before)
  kept : ∀ during, during <+: since →
    (run (step api) start (before ++ event::during)).deviceStatus &&& featuresOk ≠ 0 ∧
      (run (step api) start (before ++ event::during)).driverFeatures = (run (step api) start before).driverFeatures

theorem run_snoc (start : VirtioBlk Q) (events : List Event) (event : Event) :
    run (step api) start (events ++ [event]) = step api (run (step api) start events) event := by
  rw [run_append]
  rfl

theorem run_committed (lawful : api.Lawful) {start : VirtioBlk Q} (fresh : start.deviceStatus = 0)
    {events : List Event} (set : (run (step api) start events).deviceStatus.getLsbD 3) :
    ∃ before event since, events = before ++ event::since ∧ CommittedAt api start before event since := by
  induction events using List.reverseRecOn with
  | nil =>
    rw [run_nil,fresh] at set
    contradiction
  | append_singleton events event ih =>
    rw [run_snoc] at set
    cases earlier : (run (step api) start events).deviceStatus.getLsbD 3 with
    | false =>
      obtain ⟨accepted,same⟩ := step_commits lawful earlier set
      refine ⟨events,event,[],rfl,?_,accepted,?_⟩
      · exact not_not.mp fun raised => by rw [(has_featuresOk _).mp raised] at earlier; contradiction
      · intro during inside
        rw [List.prefix_nil.mp inside,run_snoc]
        exact ⟨(has_featuresOk _).mpr set,same⟩
    | true =>
      obtain ⟨before,first,since,rfl,committed⟩ := ih earlier
      refine ⟨before,first,since ++ [event],by simp,committed.unset,committed.accepted,?_⟩
      intro during inside
      rcases List.prefix_concat_iff.mp inside with rfl | inside
      · have whole := committed.kept since (List.prefix_rfl)
        have joined : before ++ first::(since ++ [event]) = (before ++ first::since) ++ [event] := by simp
        rw [joined,run_snoc]
        exact ⟨(has_featuresOk _).mpr set,(step_features lawful earlier set).trans whole.2⟩
      · exact committed.kept during inside

theorem run_driverOk (lawful : api.Lawful) {start : VirtioBlk Q} (fresh : start.deviceStatus = 0)
    {events : List Event} (set : (run (step api) start events).deviceStatus.getLsbD 2) :
    (run (step api) start events).deviceStatus.getLsbD 3 := by
  refine run_invariant (step api)
    (fun device => device.deviceStatus.getLsbD 2 → device.deviceStatus.getLsbD 3)
    (fun device event before after => step_driverOk lawful before after) start events ?_ set
  rw [fresh]
  decide

/-- From reset, over every sequence of register writes and worker stores: status bits
are removed by a reset only; with NEEDS_RESET set nothing but the guest's FAILED still
lands; DRIVER_OK means features that were accepted when FEATURES_OK was committed and
have not changed since; the queue layout moves between FEATURES_OK and DRIVER_OK only;
and a status write makes at most two exchange attempts. -/
theorem status_machine_safe (lawful : api.Lawful) (start : VirtioBlk Q) (fresh : start.deviceStatus = 0)
    (events : List Event) :
    (∀ event, ¬ event.IsReset →
      (run (step api) start events).deviceStatus &&& (run (step api) start (events ++ [event])).deviceStatus =
        (run (step api) start events).deviceStatus) ∧
    (∀ offset data host, (run (step api) start events).deviceStatus &&& statusNeedsReset ≠ 0 →
      ¬ Event.IsReset (.write offset data host) →
      (run (step api) start (events ++ [.write offset data host])).deviceStatus =
          (run (step api) start events).deviceStatus ∨
        registerValue data = (run (step api) start events).deviceStatus ||| statusFailed ∧
          (run (step api) start (events ++ [.write offset data host])).deviceStatus =
            (run (step api) start events).deviceStatus ||| statusFailed) ∧
    ((run (step api) start events).deviceStatus &&& driverOk ≠ 0 →
      ∃ before event since, events = before ++ event::since ∧ CommittedAt api start before event since) ∧
    (∀ event, api.layout (run (step api) start (events ++ [event])).queue ≠
        api.layout (run (step api) start events).queue →
      event.IsReset ∨ (run (step api) start events).deviceStatus &&& featuresOk ≠ 0 ∧
        (run (step api) start events).deviceStatus &&& driverOk = 0) ∧
    (∀ host val, (setStatus api host val (run (step api) start events)).2 ≤ 2) := by
  refine ⟨?_,?_,?_,?_,?_⟩
  · intro event running
    rw [run_snoc]
    exact step_grows lawful running
  · intro offset data host poisoned running
    rw [run_snoc]
    exact step_poisoned lawful poisoned running
  · intro ready
    exact run_committed api lawful fresh
      (run_driverOk api lawful fresh ((has_driverOk _).mp ready))
  · intro event changed
    rw [run_snoc] at changed
    exact step_layout lawful changed
  · intro host val
    have stored := setStatus_written api host val (run (step api) start events)
    generalize setStatus api host val (run (step api) start events) = result at stored
    cases stored <;> simp

end

/-! The virtqueue's registers, as the crate implements them. -/

structure QueueState where
  maxSize : UInt16
  size : UInt16
  ready : Bool
  descTable : UInt64
  availRing : UInt64
  usedRing : UInt64
  eventIdx : Bool
deriving DecidableEq

/-- A ring address with one half replaced, unless the result is misaligned. -/
def ringAddress (old : UInt64) (low high : Option (BitVec 32)) (align : UInt64) : UInt64 :=
  let lowHalf := (low.getD (old.toBitVec.setWidth 32)).setWidth 64
  let highHalf := (high.getD ((old.toBitVec >>> 32).setWidth 32)).setWidth 64
  let address := UInt64.ofBitVec (highHalf <<< 32 ||| lowHalf)
  if address % align = 0 then address else old

def queueState : QueueRegisters QueueState where
  size := QueueState.size
  ready := QueueState.ready
  descTable := QueueState.descTable
  availRing := QueueState.availRing
  usedRing := QueueState.usedRing
  setSize queue size :=
    if queue.maxSize < size ∨ size = 0 ∨ size &&& (size - 1) ≠ 0 then queue else {queue with size := size}
  setReady queue ready := {queue with ready := ready}
  setDescTableAddress queue low high := {queue with descTable := ringAddress queue.descTable low high 16}
  setAvailRingAddress queue low high := {queue with availRing := ringAddress queue.availRing low high 2}
  setUsedRingAddress queue low high := {queue with usedRing := ringAddress queue.usedRing low high 4}
  setEventIdx queue on := {queue with eventIdx := on}
  reset queue := ⟨queue.maxSize,queue.maxSize,false,0,0,0,false⟩

theorem queueState_lawful : queueState.Lawful where
  eventIdx _ _ := rfl

def freshDevice : VirtioBlk QueueState :=
  withOptions .production ⟨256,256,false,0,0,0,false⟩ 4096 ⟨none,none,none,none⟩ false 0

def calm : Host := ⟨0,true,true,fun _ => false⟩

/-- The guest's probe: acknowledge, driver, VERSION_1, features, queue, driver-ok. -/
def handshake : List Event :=
  [.write 0x70 [1,0,0,0] calm,.write 0x70 [3,0,0,0] calm,.write 0x24 [1,0,0,0] calm,.write 0x20 [1,0,0,0] calm,
    .write 0x70 [11,0,0,0] calm,.write 0x38 [8,0,0,0] calm,.write 0x44 [1,0,0,0] calm,.write 0x70 [15,0,0,0] calm]

theorem handshake_commits_features :
    (run (step queueState) freshDevice handshake).deviceStatus = 15 ∧
      ∃ before event since, handshake = before ++ event::since ∧
        CommittedAt queueState freshDevice before event since := by
  have safe := status_machine_safe queueState queueState_lawful freshDevice rfl handshake
  have ready : (run (step queueState) freshDevice handshake).deviceStatus = 15 := by decide
  exact ⟨ready,safe.2.2.1 (by rw [ready]; decide)⟩

/-- After the worker poisoned the queue, the guest's FAILED still changes the status. -/
theorem failed_lands_after_needsReset :
    (run (step queueState) freshDevice (handshake ++ [.needsReset])).deviceStatus &&& statusNeedsReset ≠ 0 ∧
      ¬ Event.IsReset (.write 0x70 [207,0,0,0] calm) ∧
      (run (step queueState) freshDevice (handshake ++ [.needsReset,.write 0x70 [207,0,0,0] calm])).deviceStatus ≠
        (run (step queueState) freshDevice (handshake ++ [.needsReset])).deviceStatus := by
  refine ⟨by decide,fun zero => ?_,by decide⟩
  exact absurd zero.2.2 (by decide)

end Ktstr.StatusMachine
