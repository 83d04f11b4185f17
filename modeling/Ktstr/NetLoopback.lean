import Ktstr.Library.Runs
import Ktstr.NetWalks

/-! Whole runs of the loopback device: which receive chains make it panic, and what the
guest finds in the chains it gets back. -/
namespace Ktstr.NetLoopback
open List Library.Runs Library.Scatter Library.Words Source.VmMemory Source.Net NetWalks UInt32
open Source.BlkRequest (ChainDescriptor)
open Source.Drain (Chain QueueApi)
open Source.Registers (QueueRegisters registerValue)

def txFrames (history : List Effect) : List (List UInt8) :=
  history.filterMap fun
    | .txCaptured _ _ frame => frame
    | _ => none

def rxOffers (history : List Effect) : List (List UInt8 × Chain) :=
  history.filterMap fun
    | .rxPopped frame chain _ => some (frame,chain)
    | _ => none

def rxEntries (history : List Effect) : List (List UInt8 × Chain) :=
  history.filterMap fun
    | .rxPublished frame chain _ _ _ _ => some (frame,chain)
    | _ => none

variable (before after : List Effect)

@[simp] theorem txFrames_append :
    txFrames (before ++ after) = txFrames before ++ txFrames after := filterMap_append

@[simp] theorem rxOffers_append :
    rxOffers (before ++ after) = rxOffers before ++ rxOffers after := filterMap_append

/-- A transmitted chain that can be read is captured behind its header; a receive chain
comes back with header and frame, or empty with no header byte left in it. -/
def EffectExact : Effect → Prop
  | .txCaptured chain mem frame =>
    (∀ desc ∈ chain.descriptors, desc.isWriteOnly = false ∧ Mapped mem desc) →
      12 ≤ (chainBytes mem chain.descriptors).length →
      frame = some (((chainBytes mem chain.descriptors).drop 12).take maxFrameSize)
  | .rxPopped _ _ _ => True
  | .rxPublished frame chain _ after len false =>
    covered after chain len = rxHdr ++ frame.take (len.toNat - 12) ∧ (covered after chain len).length = len.toNat
  | .rxPublished _ chain before after len true =>
    len = 0 ∧ ∀ address, Leading 12 (writable chain) address →
      after.byte address = 0 ∨ after.byte address = before.byte address

structure LoopbackExact (history : List Effect) : Prop where
  each : ∀ effect ∈ history, EffectExact effect
  ordered : ((rxOffers history).map Prod.fst).Sublist (txFrames history)
  once : (rxEntries history).Sublist (rxOffers history)

/-- Chains the device handles as promised: no transmit descriptor that begins within the
header is longer than the cap, and a receive chain has room for the header, in buffers
that lie apart and do not tear in the middle of it. -/
structure Suitable (history : List Effect) : Prop where
  tx : ∀ chain mem frame, .txCaptured chain mem frame ∈ history → Capped 0 chain.descriptors
  rx : ∀ frame chain mem, .rxPopped frame chain mem ∈ history →
    (writable chain).Pairwise Apart ∧ 12 ≤ total (writable chain) ∧ TearsClean mem 0 chain.descriptors

theorem Suitable.shorten (suitable : Suitable after) (grows : before <+: after) : Suitable before :=
  ⟨fun chain mem frame member => suitable.tx chain mem frame (grows.subset member),
    fun frame chain mem member => suitable.rx frame chain mem (grows.subset member)⟩

def Jammed (history : List Effect) : Prop :=
  ∃ frame chain mem, .rxPopped frame chain mem ∈ history ∧ Jams mem 12 12 chain.descriptors

section
variable {Q ω : Type}

structure Good (device : VirtioNet Q) : Prop where
  panics : device.panicked = true ↔ Jammed device.history
  exact : Suitable device.history → LoopbackExact device.history

structure Holding (device : VirtioNet Q) (frameLen : Nat) : Prop where
  size : device.txFrameScratch.length = frameLen
  small : frameLen ≤ maxFrameSize
  last : Suitable device.history →
    ((rxOffers device.history).map Prod.fst ++ [device.txFrameScratch]).Sublist (txFrames device.history)

theorem good_frame (before after : VirtioNet Q) (history : after.history = before.history)
    (panicked : after.panicked = before.panicked) (good : Good before) : Good after := by
  obtain ⟨panics,exact⟩ := good
  exact ⟨by rw [panicked,history,panics],by rw [history]; exact exact⟩

variable (history : List Effect)

theorem jammed_append (effect : Effect) (other : ∀ frame chain mem, effect ≠ .rxPopped frame chain mem) :
    Jammed (history ++ [effect]) ↔ Jammed history := by
  constructor
  · rintro ⟨frame,chain,mem,member,jams⟩
    rcases mem_append.mp member with old | new
    · exact ⟨frame,chain,mem,old,jams⟩
    · exact absurd (mem_singleton.mp new).symm (other frame chain mem)
  · rintro ⟨frame,chain,mem,member,jams⟩
    exact ⟨frame,chain,mem,mem_append_left _ member,jams⟩

theorem exact_captured (chain : Chain) (mem : GuestMemoryMmap) (frame : Option (List UInt8))
    (exact : LoopbackExact history) (here : EffectExact (.txCaptured chain mem frame)) :
    LoopbackExact (history ++ [.txCaptured chain mem frame]) := by
  refine ⟨forall_mem_append.mpr ⟨exact.each,by simpa using here⟩,?_,?_⟩
  · rw [rxOffers_append,txFrames_append,show rxOffers [.txCaptured chain mem frame] = [] from rfl,append_nil]
    exact exact.ordered.trans (sublist_append_left _ _)
  · simpa [rxOffers,rxEntries] using exact.once

theorem exact_published (frame : List UInt8) (chain : Chain) (mem before after : GuestMemoryMmap) (len : UInt32)
    (rejected : Bool) (exact : LoopbackExact (history ++ [.rxPopped frame chain mem]))
    (old : (rxEntries history).Sublist (rxOffers history))
    (here : EffectExact (.rxPublished frame chain before after len rejected)) :
    LoopbackExact (history ++ [.rxPopped frame chain mem] ++ [.rxPublished frame chain before after len rejected]) := by
  refine ⟨forall_mem_append.mpr ⟨exact.each,by simpa using here⟩,?_,?_⟩
  · simpa [rxOffers,txFrames] using exact.ordered
  · simpa [rxOffers,rxEntries] using old

variable (api : QueueApi Q ω)

theorem capture_exact (chain : Chain) (mem : GuestMemoryMmap) (state : TxWalk)
    (walked : txWalk mem chain.descriptors {} = some state) (capped : Capped 0 chain.descriptors) :
    EffectExact (.txCaptured chain mem (if state.chainInvalid ∨ state.hdrRemaining ≠ 0 then none
      else some (state.scratch.take state.totalDataBytes))) := by
  intro whole long
  obtain ⟨final,found,scratch,hdr,total,valid⟩ := txWalk_captures mem chain.descriptors {} [] ⟨rfl,rfl,rfl,rfl⟩ capped
    (fun desc member => (whole desc member).1) (fun desc member => (whole desc member).2)
  rw [walked] at found
  cases found
  rw [nil_append] at scratch hdr
  have none : state.hdrRemaining = 0 := by omega
  rw [if_neg (by simp [valid,none]),total,take_length,scratch]

variable (self : VirtioNet Q) (frame : List UInt8) (after : VirtioNet Q)

theorem good_captured (chain : Chain) (mem : GuestMemoryMmap) (frame : Option (List UInt8)) (good : Good self)
    (history : after.history = self.history ++ [.txCaptured chain mem frame])
    (panicked : after.panicked = self.panicked)
    (here : Capped 0 chain.descriptors → EffectExact (.txCaptured chain mem frame)) : Good after := by
  constructor
  · rw [panicked,history,jammed_append _ _ (by simp),good.panics]
  · rw [history]
    intro suitable
    have capped := suitable.tx chain mem frame (mem_append_right _ (mem_singleton.mpr rfl))
    exact exact_captured _ _ _ _ (good.exact (suitable.shorten _ _ (prefix_append _ _))) (here capped)

variable (turn : Turn ω)

theorem popAndCaptureTx_good (good : Good self) : Good (popAndCaptureTx api self turn).1 ∧
      ((popAndCaptureTx api self turn).1.panicked = self.panicked) ∧
      ∀ chain frameLen, (popAndCaptureTx api self turn).2 = .chain chain (some frameLen) →
        Holding (popAndCaptureTx api self turn).1 frameLen := by
  unfold popAndCaptureTx
  split
  · exact ⟨good,rfl,by simp⟩
  · split
    · exact ⟨good_frame self _ rfl rfl good,rfl,by simp⟩
    · exact ⟨good_frame self _ rfl rfl good,rfl,by simp⟩
    · next queue chain popped =>
      obtain ⟨state,walked,full,small⟩ := txWalk_total turn.txMem chain.descriptors {} rfl (Nat.zero_le _)
      have here (capped : Capped 0 chain.descriptors) := capture_exact chain turn.txMem state walked capped
      simp only [walked]
      split
      · next invalid =>
        rw [if_pos invalid] at here
        exact ⟨good_captured self _ chain turn.txMem none good rfl rfl here,rfl,by simp⟩
      · next valid =>
        rw [if_neg valid] at here
        refine ⟨good_captured self _ chain turn.txMem _ good rfl rfl here,rfl,?_⟩
        rintro - - ⟨⟩
        refine ⟨full.symm,small,fun suitable => ?_⟩
        have exact := good.exact (suitable.shorten _ _ (prefix_append _ _))
        simpa [emit,setQueue,rxOffers,txFrames,full] using exact.ordered

theorem payload_take (count : Nat) (long : 12 ≤ count) :
    (payload frame).take count = rxHdr ++ frame.take (count - 12) := by
  rw [payload,take_append,take_of_length_le long]
  rfl

theorem delivered_exact (small : frame.length ≤ maxFrameSize) (chain : Chain) (mem : GuestMemoryMmap)
    (final : RxWalk) (walked : rxWalk frame frame.length chain.descriptors {mem := mem} = some (final,none))
    (apart : (writable chain).Pairwise Apart) (room : 12 ≤ total (writable chain)) :
    EffectExact (.rxPublished frame chain mem final.mem (ofNat final.bytesWritten) false) := by
  obtain ⟨bytes,count,sound⟩ := rxWalk_delivers frame small chain.descriptors _ final (sound_start frame mem) walked
  rw [Nat.zero_add] at count
  have len : (ofNat final.bytesWritten).toNat = min (payload frame).length (total (writable chain)) := by
    rw [toNat_ofNat_of_lt',count,payload_length]
    · rfl
    · rw [count]
      unfold maxFrameSize at small
      show _ < 2 ^ 32
      omega
  have exact : covered final.mem chain (ofNat final.bytesWritten) =
      (payload frame).take (ofNat final.bytesWritten).toNat := by
    rw [covered,bytes,len]
    exact gather_scatter_take mem.byte (payload frame) apart
  refine ⟨?_,?_⟩
  · rw [exact]
    apply payload_take
    rw [len,payload_length]
    omega
  · rw [exact,length_take]
    omega

theorem rejected_exact (small : frame.length ≤ maxFrameSize) (chain : Chain) (mem : GuestMemoryMmap)
    (final : RxWalk) (reason : InvalidReason)
    (walked : rxWalk frame frame.length chain.descriptors {mem := mem} = some (final,some reason)) :
    ∃ after, rollBack final.mem final.slots = some after ∧
      ((writable chain).Pairwise Apart → TearsClean mem 0 chain.descriptors →
        EffectExact (.rxPublished frame chain mem after 0 true)) := by
  have granted := rxWalk_granted frame small chain.descriptors {mem := mem} final (some reason) (sound_start frame mem)
    (by simp [Granted]) walked
  obtain ⟨after,rolled,effect⟩ := rollBack_zeroes final.slots final.mem (fun slot member => (granted slot member).2)
    (fun slot member => (granted slot member).1)
  refine ⟨after,rolled,fun apart clean => ⟨rfl,?_⟩⟩
  have tidy := rxWalk_rejects (Leading 12 (writable chain)) mem.byte frame small chain.descriptors {mem := mem} final
    reason (sound_start frame mem) (fun _ _ => Or.inl rfl) (spares_leading 12 apart) clean walked
  intro address leading
  rcases effect address with ⟨same,free⟩ | ⟨zero,-⟩
  · rw [same]
    rcases tidy address leading with unchanged | zero | recorded
    · exact Or.inr unchanged
    · exact Or.inl zero
    · exact absurd recorded free
  · exact Or.inl zero

/-- A receive chain was taken for the frame in the scratch buffer. -/
def taken (self : VirtioNet Q) (queue : Q) (chain : Chain) (mem : GuestMemoryMmap) : VirtioNet Q :=
  emit (setQueue self rxq queue) (.rxPopped self.txFrameScratch chain mem)

variable (queue : Q) (chain : Chain) (mem : GuestMemoryMmap)

theorem jammed_taken :
    Jammed (taken self queue chain mem).history ↔ Jammed self.history ∨ Jams mem 12 12 chain.descriptors := by
  constructor
  · rintro ⟨frame,chain',mem',member,jams⟩
    rcases mem_append.mp member with old | new
    · exact Or.inl ⟨frame,chain',mem',old,jams⟩
    · cases mem_singleton.mp new
      exact Or.inr jams
  · rintro (⟨frame,chain',mem',member,jams⟩ | jams)
    · exact ⟨frame,chain',mem',mem_append_left _ member,jams⟩
    · exact ⟨_,chain,mem,mem_append_right _ (mem_singleton.mpr rfl),jams⟩

theorem taken_exact (frameLen : Nat) (good : Good self) (holding : Holding self frameLen)
    (suitable : Suitable (taken self queue chain mem).history) :
    LoopbackExact (taken self queue chain mem).history := by
  have earlier := suitable.shorten self.history _ (prefix_append _ _)
  have exact := good.exact earlier
  unfold taken emit
  refine ⟨forall_mem_append.mpr ⟨exact.each,by simp [EffectExact]⟩,?_,?_⟩
  · rw [rxOffers_append,txFrames_append,map_append]
    exact (holding.last earlier).trans (sublist_append_left _ _)
  · simpa [setQueue,rxOffers,rxEntries] using exact.once.trans (sublist_append_left _ _)

theorem good_handled (frameLen : Nat) (good : Good self) (live : self.panicked = false)
    (holding : Holding self frameLen) (loose : ¬ Jams mem 12 12 chain.descriptors) (stays : after.panicked = false)
    (history : after.history = (taken self queue chain mem).history ∨ ∃ final len rejected,
      after.history = (taken self queue chain mem).history ++ [.rxPublished self.txFrameScratch chain mem final len rejected] ∧
      ((writable chain).Pairwise Apart → 12 ≤ total (writable chain) → TearsClean mem 0 chain.descriptors →
        EffectExact (.rxPublished self.txFrameScratch chain mem final len rejected))) : Good after := by
  have quiet : ¬ Jammed (taken self queue chain mem).history := by
    rw [jammed_taken,← good.panics,live]
    simpa using loose
  rcases history with same | ⟨final,len,rejected,published,here⟩
  · rw [← same] at quiet
    refine ⟨by simpa [stays] using quiet,fun suitable => ?_⟩
    rw [same] at suitable ⊢
    exact taken_exact self queue chain mem frameLen good holding suitable
  · constructor
    · rw [published,jammed_append _ _ (by simp),stays]
      simpa using quiet
    · rw [published]
      intro suitable
      have earlier := suitable.shorten _ _ (prefix_append _ _)
      obtain ⟨apart,room,clean⟩ := earlier.rx _ chain mem (mem_append_right _ (mem_singleton.mpr rfl))
      exact exact_published self.history _ chain mem mem final len rejected
        (taken_exact self queue chain mem frameLen good holding earlier)
        (good.exact (earlier.shorten _ _ (prefix_append _ _))).once (here apart room clean)

section
variable (self : VirtioNet Q) (turn : Turn ω) (queue : Q) (chain : Chain) (good : Good self)
  (live : self.panicked = false) (holding : Holding self self.txFrameScratch.length)
include good live holding

theorem deliverChain_good (final : RxWalk)
    (walked : rxWalk self.txFrameScratch self.txFrameScratch.length chain.descriptors {mem := turn.rxMem} =
      some (final,none)) (loose : ¬ Jams turn.rxMem 12 12 chain.descriptors) :
    Good (deliverChain api (taken self queue chain turn.rxMem) turn self.txFrameScratch chain final).1 := by
  have sound := (rxWalk_delivers _ holding.small chain.descriptors _ final (sound_start _ turn.rxMem) walked).2.2
  have exact := delivered_exact _ holding.small chain turn.rxMem final walked
  have handled (after : VirtioNet Q) := good_handled self after queue chain turn.rxMem _ good live holding loose
  have hdr := sound.hdr
  unfold deliverChain
  rw [checkedSub_of_le (show final.hdrRemaining ≤ hdrLen by unfold hdrLen; omega)]
  dsimp only
  split
  · exact handled _ live (Or.inr ⟨final.mem,_,false,rfl,fun apart room _ => exact apart room⟩)
  · exact handled _ live (Or.inl rfl)

theorem rejectChain_good (final : RxWalk) (reason : InvalidReason)
    (walked : rxWalk self.txFrameScratch self.txFrameScratch.length chain.descriptors {mem := turn.rxMem} =
      some (final,some reason)) (loose : ¬ Jams turn.rxMem 12 12 chain.descriptors) :
    Good (rejectChain api (taken self queue chain turn.rxMem) turn self.txFrameScratch chain final reason).1 := by
  obtain ⟨after,rolled,exact⟩ := rejected_exact _ holding.small chain turn.rxMem final reason walked
  have handled (after : VirtioNet Q) := good_handled self after queue chain turn.rxMem _ good live holding loose
  unfold rejectChain
  simp only [rolled]
  split
  · exact handled _ live (Or.inr ⟨after,0,true,rfl,fun apart _ clean => exact apart clean⟩)
  · exact handled _ live (Or.inl rfl)

theorem tryLoopbackToRx_good : Good (tryLoopbackToRx api self turn self.txFrameScratch.length).1 := by
  unfold tryLoopbackToRx
  split
  · exact good
  · split
    · exact good
    · split
      · exact good_frame self _ rfl rfl good
      · exact good_frame self _ rfl rfl good
      · next queue chain popped =>
        have jams := rxWalk_panics_iff self.txFrameScratch holding.small chain.descriptors {mem := turn.rxMem}
          (sound_start _ turn.rxMem)
        have loose (final : RxWalk × Option InvalidReason)
            (walked : rxWalk self.txFrameScratch self.txFrameScratch.length chain.descriptors {mem := turn.rxMem} =
              some final) : ¬ Jams turn.rxMem 12 12 chain.descriptors := fun jam => by
          rw [jams.mpr jam] at walked
          cases walked
        simp only [take_length]
        split
        · next walked =>
          have jam := jams.mp walked
          refine ⟨⟨fun _ => (jammed_taken self queue chain turn.rxMem).mpr (Or.inr jam),fun _ => rfl⟩,?_⟩
          exact taken_exact self queue chain turn.rxMem _ good holding
        · next final reason walked =>
          exact rejectChain_good api self turn queue chain good live holding final reason walked (loose _ walked)
        · next final walked =>
          exact deliverChain_good api self turn queue chain good live holding final walked (loose _ walked)

end

theorem loopBack_good (seen : Drained) (frameLen : Option Nat) (good : Good self)
    (live : self.panicked = false) (holding : ∀ len, frameLen = some len → Holding self len) :
    Good (loopBack api self turn seen frameLen).1 := by
  cases frameLen with
  | none => exact good
  | some len =>
    have held := holding len rfl
    obtain rfl := held.size
    have tried := tryLoopbackToRx_good api self turn good live held
    unfold loopBack
    dsimp only
    generalize tryLoopbackToRx api self turn self.txFrameScratch.length = result at tried
    obtain ⟨after,outcome⟩ := result
    cases outcome <;> exact good_frame after _ rfl rfl tried

theorem completeTx_good (frameLen : Option Nat) (seen : Drained) (good : Good self) :
    Good (completeTx api self turn chain frameLen seen).1 ∧
      (completeTx api self turn chain frameLen seen).1.panicked = self.panicked := by
  unfold completeTx
  split
  · cases frameLen with
    | none => exact ⟨good_frame self _ rfl rfl good,rfl⟩
    | some len => exact ⟨good_frame self _ rfl rfl good,rfl⟩
  · exact ⟨good_frame self _ rfl rfl good,rfl⟩

variable (turns : List (Turn ω))

theorem loopbackLoop_good (self : VirtioNet Q) (seen : Drained) (good : Good self) (live : self.panicked = false) :
    Good (loopbackLoop api turns self seen).1 := by
  induction turns generalizing self seen with
  | nil => exact good
  | cons turn turns ih =>
    obtain ⟨popped,same,holding⟩ := popAndCaptureTx_good api self turn good
    unfold loopbackLoop
    generalize popAndCaptureTx api self turn = result at popped same holding
    obtain ⟨after,outcome⟩ := result
    cases outcome with
    | empty => exact popped
    | justPoisoned => exact popped
    | chain chain frameLen =>
      have live' : after.panicked = false := same.trans live
      have looped := loopBack_good api after turn seen frameLen popped live' fun len found => holding chain len (found ▸ rfl)
      dsimp only
      split
      · exact looped
      · next still =>
        obtain ⟨completed,alive⟩ := completeTx_good api _ turn chain frameLen (loopBack api after turn seen frameLen).2 looped
        split
        · exact completed
        · exact ih _ _ completed (alive.trans (Bool.eq_false_of_not_eq_true still))

theorem processTxLoopback_good (good : Good self) (live : self.panicked = false) :
    Good (processTxLoopback api self turns) := by
  have looped := loopbackLoop_good api turns self {} good live
  unfold processTxLoopback
  split
  · exact good
  · split
    · exact good
    · dsimp only
      split
      · exact looped
      · split <;> split <;> exact good_frame (loopbackLoop api turns self {}).1 _ rfl rfl looped

theorem mmioWrite_good (registers : QueueRegisters Q) (self : VirtioNet Q) (offset : Nat) (data : List UInt8)
    (turns : List (Turn ω)) (good : Good self) (live : self.panicked = false) :
    Good (mmioWrite api registers self offset data turns) := by
  have frame (after : VirtioNet Q) (history : after.history = self.history)
      (panicked : after.panicked = self.panicked) : Good after := good_frame self after history panicked good
  have configured (change : Q → Q) : Good (configureQueue self change) := by
    unfold configureQueue
    split
    · split
      · exact frame _ rfl rfl
      · exact good
    · exact good
  unfold mmioWrite
  split
  · exact good
  split
  · exact good
  dsimp only
  split
  · exact frame _ rfl rfl
  · exact frame _ rfl rfl
  · unfold writeDriverFeatures
    split_ifs <;> exact frame _ rfl rfl
  · exact frame _ rfl rfl
  · exact configured _
  · exact configured _
  · split
    · exact processTxLoopback_good api self turns good live
    · exact good
  · exact frame _ rfl rfl
  · split
    · exact frame _ rfl rfl
    · unfold setStatus
      dsimp only
      split_ifs <;> exact frame _ rfl rfl
  iterate 6 exact configured _
  exact good

theorem step_good (registers : QueueRegisters Q) (self : VirtioNet Q) (event : Event ω) (good : Good self) :
    Good (step api registers self event) := by
  unfold step
  split
  · exact good
  · next live =>
    cases event with
    | setMem => exact good_frame self _ rfl rfl good
    | mmioWrite offset data turns =>
      exact mmioWrite_good api registers self offset data turns good (Bool.eq_false_of_not_eq_true live)

theorem run_good (registers : QueueRegisters Q) (queues : Fin 2 → Q) (events : List (Event ω)) :
    Good (run (step api registers) (new queues) events) := by
  refine run_invariant (step api registers) Good (fun self event => step_good api registers self event)
    (new queues) events ⟨?_,fun _ => ⟨?_,?_,?_⟩⟩
  · simp [new,Jammed]
  · simp [new]
  · exact List.Sublist.refl _
  · exact List.Sublist.refl _

/-- The device survives a run exactly if no receive chain it took jams the table of header
places. -/
theorem survives_iff_no_jam (registers : QueueRegisters Q) (queues : Fin 2 → Q) (events : List (Event ω)) :
    let final := run (step api registers) (new queues) events
    final.panicked = false ↔ ∀ frame chain mem, .rxPopped frame chain mem ∈ final.history →
      ¬ Jams mem 12 12 chain.descriptors := by
  intro final
  have panics := (run_good api registers queues events).panics
  rw [← Bool.not_eq_true,panics]
  unfold Jammed
  push Not
  exact Iff.rfl

/-- In every run over suitable chains the loopback is exact. -/
theorem loopback_exact_when_suitable (registers : QueueRegisters Q) (queues : Fin 2 → Q) (events : List (Event ω))
    (suitable : Suitable (run (step api registers) (new queues) events).history) :
    LoopbackExact (run (step api registers) (new queues) events).history :=
  (run_good api registers queues events).exact suitable

end

instance decidableCapped : (start : Nat) → (descs : List ChainDescriptor) → Decidable (Capped start descs)
  | _,[] => isTrue trivial
  | start,desc::descs =>
    have := decidableCapped (start + desc.len.toNat) descs
    inferInstanceAs (Decidable (_ ∧ Capped (start + desc.len.toNat) descs))

instance decidableTearsClean (mem : GuestMemoryMmap) :
    (start : Nat) → (descs : List ChainDescriptor) → Decidable (TearsClean mem start descs)
  | _,[] => isTrue trivial
  | start,desc::descs =>
    have := decidableTearsClean mem (start + desc.len.toNat) descs
    inferInstanceAs (Decidable (_ ∧ TearsClean mem (start + desc.len.toNat) descs))

def effectSuitable : Effect → Bool
  | .txCaptured chain _ _ => decide (Capped 0 chain.descriptors)
  | .rxPopped _ chain mem =>
    decide ((writable chain).Pairwise Apart ∧ 12 ≤ total (writable chain) ∧ TearsClean mem 0 chain.descriptors)
  | .rxPublished .. => true

theorem suitable_of_all (history : List Effect) (all : history.all effectSuitable) : Suitable history := by
  have each := all_eq_true.mp all
  constructor
  · intro chain mem frame member
    exact of_decide_eq_true (each _ member)
  · intro frame chain mem member
    exact of_decide_eq_true (each _ member)

def posted (rx : Chain) : Fin 2 → PostedQueue
  | 0 => {chains := [rx]}
  | 1 => {chains := [⟨3,[⟨8192,16,false⟩]⟩]}

/-- Memory in which an access fails where `hole` says so, after eleven bytes. -/
def memoryWith (hole : UInt64 → Bool) : GuestMemoryMmap :=
  ⟨fun address => if 8192 ≤ address then UInt8.ofNat address else 0,fun addr _ => !hole addr,fun _ _ => 11⟩

def notifyOnce (hole : UInt64 → Bool) : List (Event Bool) :=
  [.setMem,.mmioWrite 0x70 [1,0,0,0] [],.mmioWrite 0x70 [3,0,0,0] [],.mmioWrite 0x24 [1,0,0,0] [],
    .mmioWrite 0x20 [1,0,0,0] [],.mmioWrite 0x70 [11,0,0,0] [],.mmioWrite 0x44 [1,0,0,0] [],
    .mmioWrite 0x30 [1,0,0,0] [],.mmioWrite 0x44 [1,0,0,0] [],.mmioWrite 0x70 [15,0,0,0] [],
    .mmioWrite 0x50 [1,0,0,0] [⟨true,memoryWith hole,true,memoryWith hole,true,true⟩]]

/-- Thirteen empty buffers in a mapped receive chain. -/
theorem empty_buffers_panic :
    (run (step postedQueue postedRegisters) (new (posted ⟨5,List.replicate 13 ⟨4096,0,true⟩⟩))
      (notifyOnce fun _ => false)).panicked = true := by
  decide

/-- The receive buffer's page ends after eleven bytes: the chain is rejected, and the
header's one is left in it. A buffer of five bytes is published with less than a header,
and a transmit descriptor of the longest frame behind a header loses its last twelve bytes. -/
theorem chains_not_looped_exactly :
    let final := run (step postedQueue postedRegisters) (new (posted ⟨5,[⟨4096,64,true⟩]⟩))
      (notifyOnce fun addr => addr == 4096)
    let short := run (step postedQueue postedRegisters) (new (posted ⟨5,[⟨4096,5,true⟩]⟩)) (notifyOnce fun _ => false)
    (Leading 12 (writable ⟨5,[⟨4096,64,true⟩]⟩) 4106 ∧ (final.history.map fun
        | .rxPublished _ _ before after len rejected => (before.byte 4106,after.byte 4106,len,rejected)
        | _ => (0,0,1,false)) = [(0,0,1,false),(0,0,1,false),(0,1,0,true)]) ∧
    (short.history.map fun
      | .rxPublished _ chain _ after len rejected => (covered after chain len,len,rejected)
      | _ => ([],0,true)) = [([],0,true),([],0,true),([0,0,0,0,0],5,false)] ∧
    (txWalk (memoryWith fun _ => false) [⟨8192,65548,false⟩] {}).map (fun state => (state.chainInvalid,state.scratch.length)) =
      some (false,65524) := by
  refine ⟨⟨Or.inl ?_,by decide⟩,by decide,?_⟩
  · decide
  · simp [txWalk,skipHeader,hdrLen,txDescMax,maxFrameSize,addrAdd,checkedSub,checkedAdd,memoryWith,
      GuestMemoryMmap.readSlice,load_length,wordSpan]

/-- Over a chain with two buffers the frame arrives whole. -/
theorem split_chain_exact :
    let final := run (step postedQueue postedRegisters) (new (posted ⟨5,[⟨4096,5,true⟩,⟨6000,20,true⟩]⟩))
      (notifyOnce fun _ => false)
    (rxEntries final.history).map Prod.fst = [[0x0c,0x0d,0x0e,0x0f]] ∧ LoopbackExact final.history := by
  refine ⟨by decide,?_⟩
  exact loopback_exact_when_suitable postedQueue postedRegisters _ _ (suitable_of_all _ (by decide))

end Ktstr.NetLoopback
