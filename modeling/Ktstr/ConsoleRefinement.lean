import Ktstr.Semantics.ConsoleParts

/-! Whatever the guest and the host make the console do consists of the parts of its work and of the host's acts. -/
namespace Ktstr.ConsoleRefinement
open List Source.VmMemory Source.Console Semantics.PortStreams Semantics.ConsoleParts
open Source.BlkRequest (ChainDescriptor)
open Source.Drain (Chain QueueApi)
open Source.Registers (QueueRegisters registerValue)

theorem control_foreign {port : Fin 3} : cIvq ≠ rxq port ∧ cIvq ≠ txq port ∧ cOvq ≠ rxq port ∧ cOvq ≠ txq port := by
  revert port
  decide

theorem rxq_ne_txq (port other : Fin 3) : rxq port ≠ txq other := by
  revert port other
  decide

theorem capture_capture (self : View) (port : Fin 3) (first second : List (List UInt8)) :
    (self.capture port first).capture port second = self.capture port (first ++ second) := by
  simp [View.capture,View.setPort,View.log]

theorem setPort_field {α : Type} (self : View) (field : Port → α) (index : Fin 3) (port : Port)
    (same : field port = field (self.ports index)) (other : Fin 3) :
    field ((self.setPort index port).ports other) = field (self.ports other) := by
  by_cases here : other = index
  · subst here
    simpa [View.setPort] using same
  · simp [View.setPort,here]

theorem acts_keep {lossy : Prop} {inv : View → Prop} (kept : ∀ self next, Act lossy self next → inv self → inv next)
    {before after : View} (path : Relation.ReflTransGen (Act lossy) before after) (holds : inv before) : inv after := by
  induction path with
  | refl => exact holds
  | tail _ act ih => exact kept _ _ act ih

section
variable {Q ω : Type} (api : QueueApi Q ω)

variable (self : VirtioConsole Q)

@[simp] theorem view_setPort (index : Fin 3) (port : Port) :
    view (setPort self index port) = (view self).setPort index {port with opened := false} := by
  simp only [view,setPort,View.setPort,View.mk.injEq,and_true]
  funext other
  by_cases here : other = index
  · subst here
    simp
  · simp [here]

theorem reaches_part {before middle after : VirtioConsole Q} {next : View} (path : Reaches before middle)
    (part : Part (view middle) next) (same : view after = next) : Reaches before after := by
  rw [← same] at part
  exact path.tail part

theorem popChain_reaches (turn : Turn ω) {index : Fin 8} (foreign : ∀ port, index ≠ txq port) :
    Reaches self (popChain api self turn index).1 := by
  unfold popChain
  split
  · exact .refl
  · exact .single (.popped index _ _ foreign)

theorem popChain_recorded {after : VirtioConsole Q} {turn : Turn ω} {index : Fin 8} {chain : Chain}
    (popped : popChain api self turn index = (after,some chain)) :
    .popped index chain turn.mem ∈ after.history := by
  unfold popChain at popped
  split at popped
  · simp at popped
  · cases popped
    simp [emit]

theorem addUsed_reaches (used : ω) (index : Fin 8) (chain : Chain) (mem : GuestMemoryMmap) (len : UInt32)
    (empty : index = cOvq ∨ len = 0) : Reaches self (addUsed api self used index chain mem len).1 := by
  unfold addUsed
  split
  · refine .single (.returned index _ len _ (empty.imp_right fun zero => ⟨zero,?_⟩))
    rw [zero]
    simp [covered]
  · exact .refl

variable (port : Fin 3) (mem : GuestMemoryMmap)

theorem captureDescriptor_view (state : Capture Q) (desc : ChainDescriptor) :
    view (captureDescriptor port mem state desc).device = (view state.device).capture port (pieces mem [desc]) := by
  have idle : (view state.device).capture port [] = view state.device := by simp [View.capture,View.setPort,View.log]
  unfold captureDescriptor
  by_cases writeOnly : desc.isWriteOnly
  · simp [pieces,writeOnly,idle]
  · rw [if_neg writeOnly]
    cases found : mem.readSlice desc.addr (min desc.len.toNat txDescMax) with
    | none => simp [pieces,writeOnly,found,idle]
    | some bytes =>
      have appended : view (emit (setPort state.device port
          {state.device.ports port with txBuf := (state.device.ports port).txBuf ++ bytes}) (.appended port bytes)) =
          (view state.device).capture port [bytes] := by
        change (view (setPort _ _ _)).log _ = _
        rw [view_setPort]
        simp [View.capture,view]
      simp only [pieces,writeOnly,found,filter_cons,Bool.not_false,if_true,filter_nil,filterMap_cons,
        filterMap_nil,← appended]
      split <;> rfl

theorem captureChain_view (descs : List ChainDescriptor) (state : Capture Q) :
    view (descs.foldl (captureDescriptor port mem) state).device = (view state.device).capture port (pieces mem descs) := by
  induction descs generalizing state with
  | nil => simp [View.capture,View.setPort,View.log,pieces]
  | cons desc descs ih =>
    rw [foldl_cons,ih,captureDescriptor_view,capture_capture]
    simp only [pieces]
    rw [← filterMap_append,← filter_append,singleton_append]

variable (turns : List (Turn ω))

theorem captureLoop_reaches (state : Capture Q) :
    Reaches state.device (captureLoop api port turns state).device := by
  induction turns generalizing state with
  | nil => exact .refl
  | cons turn turns ih =>
    unfold captureLoop popChain
    cases popDescriptorChain api turn.pop (state.device.queues (txq port)) with
    | mk queue found =>
      cases found with
      | none => exact .refl
      | some chain =>
        have popped := @Part.captured (view state.device) port chain turn.mem
        dsimp only
        have read := captureChain_view port turn.mem chain.descriptors {state with
          device := emit (setQueue state.device (txq port) queue) (.popped (txq port) chain turn.mem)}
        change _ = ((view state.device).log [.popped (txq port) chain turn.mem]).capture port _ at read
        rw [← read] at popped
        have turned := (Relation.ReflTransGen.single popped).trans
          (addUsed_reaches api _ turn.used (txq port) chain turn.mem 0 (Or.inr rfl))
        split
        · exact turned
        · exact turned.trans (ih ⟨_,_,_⟩)

theorem processTx_reaches : Reaches self (processTx api self port turns) := by
  unfold processTx
  split
  · have loop := captureLoop_reaches api port turns {device := self}
    dsimp only
    split
    · exact loop
    · exact loop
  · exact .refl

theorem drainTx_reaches : Reaches self (drainTxIntoCaptureBuf api self port turns) := by
  unfold drainTxIntoCaptureBuf
  split
  · exact captureLoop_reaches api port turns {device := self}
  · exact .refl

theorem deliverLoop_reaches (self : VirtioConsole Q) (totalWritten : UInt32) (chainsDrained : Nat) :
    Reaches self (deliverLoop api port turns self totalWritten chainsDrained).1 := by
  induction turns generalizing self totalWritten chainsDrained with
  | nil => exact .refl
  | cons turn turns ih =>
    have pop := popChain_reaches api self turn (rxq_ne_txq port)
    unfold deliverLoop
    split
    · exact .refl
    · split
      · next after popped =>
        rw [popped] at pop
        exact pop
      · next after chain popped =>
        have recorded := popChain_recorded api self popped
        rw [popped] at pop
        dsimp only
        split
        · -- torn: the chain goes back with length zero
          exact pop.trans (addUsed_reaches api after turn.used (rxq port) chain _ 0 (Or.inr rfl))
        · next whole =>
          rw [Bool.not_eq_true] at whole
          have received := @Part.received (view after) port chain turn.mem turn.split _ recorded rfl whole
          unfold addUsed
          cases api.addUsed turn.used (after.queues (rxq port)) chain.headIndex
              (fillChain turn.split (after.ports port).pendingRx chain.descriptors {mem := turn.mem}).written with
          | mk queue ok =>
            cases ok with
            | false => exact pop
            | true =>
              dsimp only
              split
              · exact reaches_part pop received (view_setPort ..)
              · refine Relation.ReflTransGen.trans ?_ (ih _ _ _)
                exact reaches_part pop received (view_setPort ..)

theorem drainPendingRx_reaches : Reaches self (drainPendingRx api self port turns) := by
  have loop := deliverLoop_reaches api port turns self 0 0
  unfold drainPendingRx
  split_ifs
  iterate 6 exact .refl
  dsimp only
  split
  · exact loop
  · exact loop

theorem controlTxLoop_reaches (self : VirtioConsole Q) (events : List VirtioConsoleControl)
    (anyPublished : Bool) (chainsDrained : Nat) :
    Reaches self (controlTxLoop api turns self events anyPublished chainsDrained).1 := by
  induction turns generalizing self events anyPublished chainsDrained with
  | nil => exact .refl
  | cons turn turns ih =>
    have pop := popChain_reaches api self turn fun port => control_foreign.2.2.2
    unfold controlTxLoop
    split
    · next after popped =>
      rw [popped] at pop
      exact pop
    · next after chain popped =>
      rw [popped] at pop
      have here := pop.trans (addUsed_reaches api after turn.used cOvq chain turn.mem
        (UInt32.ofNat (readControl turn.mem chain.descriptors []).length) (Or.inl rfl))
      split
      · exact here
      · exact here.trans (ih _ _ _ _)

theorem controlInLoop_reaches (self : VirtioConsole Q) (anyPublished : Bool) :
    Reaches self (controlInLoop api turns self anyPublished).1 := by
  induction turns generalizing self anyPublished with
  | nil => exact .refl
  | cons turn turns ih =>
    have pop := popChain_reaches api self turn fun port => control_foreign.2.1
    have used (after : VirtioConsole Q) (chain : Chain) (mem : GuestMemoryMmap) :=
      addUsed_reaches api after turn.used cIvq chain mem 0 (Or.inr rfl)
    unfold controlInLoop
    split
    · exact .refl
    · next message messages waiting =>
      split
      · next after popped =>
        rw [popped] at pop
        exact pop
      · next after chain popped =>
        have recorded := popChain_recorded api self popped
        have still : after.controlOut = self.controlOut := by
          unfold popChain at popped
          split at popped <;> cases popped
          rfl
        rw [popped] at pop
        dsimp only
        split
        · exact (pop.trans (used after chain turn.mem)).trans (ih _ _)
        · next room =>
          split
          · exact pop.trans (used after chain _)
          · next whole =>
            rw [Bool.not_eq_true] at whole
            have sent := @Part.sent (view after) message messages chain turn.mem _ _ (still.trans waiting) recorded
              (Nat.le_of_not_lt room) (Prod.ext rfl (Prod.ext rfl whole))
            unfold addUsed
            cases api.addUsed turn.used (after.queues cIvq) chain.headIndex (UInt32.ofNat
                (writeControl (chain.descriptors.filter ChainDescriptor.isWriteOnly) message.bytes turn.mem 0).2.1) with
            | mk queue ok =>
              cases ok with
              | false => exact pop
              | true =>
                refine Relation.ReflTransGen.trans ?_ (ih _ true)
                exact pop.tail sent

theorem drainControlIn_reaches : Reaches self (drainControlIn api self turns) := by
  have loop := controlInLoop_reaches api turns self false
  unfold drainControlIn
  split_ifs
  iterate 5 exact .refl
  dsimp only
  split
  · exact loop
  · exact loop

theorem handleControlEvent_reaches {control : VirtioConsoleControl} {turns : List (Turn ω)} :
    Reaches self (handleControlEvent api self control turns) := by
  unfold handleControlEvent
  split
  · split
    · exact .refl
    · next first => exact .single (.announced (Bool.eq_false_iff.mpr (not_or.mp first).2))
  · split
    · split
      · exact .refl
      · cases found : portOf control.id with
        | none => exact .refl
        | some port =>
          dsimp only
          split
          · exact .refl
          · next first =>
            have answered := @Part.answered (view self) port control.id found (Bool.eq_false_iff.mpr first)
            refine .single ?_
            change Part _ ((view (setPort _ _ _)).enqueue _)
            rw [view_setPort]
            exact answered
    · split
      · cases found : portOf control.id with
        | none => exact .refl
        | some port =>
          have toggled : Reaches self (setPort self port {self.ports port with opened := control.value == 1}) := by
            have same : view (setPort self port {self.ports port with opened := control.value == 1}) = view self := by
              rw [view_setPort]
              simp [View.setPort,view]
            rw [Reaches,same]
          dsimp only
          split
          · exact toggled.trans (drainPendingRx_reaches api _ port turns)
          · exact toggled
      · exact .refl

theorem foldl_reaches {α : Type} (act : VirtioConsole Q → α → VirtioConsole Q)
    (reaches : ∀ self item, Reaches self (act self item)) (items : List α) (self : VirtioConsole Q) :
    Reaches self (items.foldl act self) := by
  induction items generalizing self with
  | nil => exact .refl
  | cons item items ih => exact (reaches self item).trans (ih (act self item))

theorem processControlTx_reaches (world : Site → List (Turn ω)) :
    Reaches self (processControlTx api self world) := by
  unfold processControlTx
  split_ifs
  iterate 3 exact .refl
  have frames := controlTxLoop_reaches api (world .controlTx) self [] false 0
  have handled := frames.trans (foldl_reaches
    (fun self (entry : VirtioConsoleControl × Nat) => handleControlEvent api self entry.1 (world (.opened entry.2)))
    (fun self entry => handleControlEvent_reaches api self)
    (controlTxLoop api (world .controlTx) self [] false 0).2.1.zipIdx _)
  refine Relation.ReflTransGen.trans ?_ (drainControlIn_reaches api _ (world .controlIn))
  split
  · exact handled
  · exact handled

variable {self}

variable {world : Site → List (Turn ω)}

theorem notify_reaches {index : Nat} : Reaches self (notify api self index world) := by
  unfold notify
  split
  · dsimp only
    split
    · exact drainControlIn_reaches api self _
    · split
      · exact processControlTx_reaches api self world
      · split
        · exact drainPendingRx_reaches api self _ _
        · exact processTx_reaches api self _ _
        · exact .refl
  · exact .refl

theorem setStatus_reaches {val : BitVec 32} : Reaches self (setStatus api self val world) := by
  unfold setStatus
  dsimp only
  split_ifs
  · exact .refl
  · exact .refl
  · exact (drainPendingRx_reaches api {self with deviceStatus := val} 0 _).trans (drainControlIn_reaches api _ _)
  · exact .refl
  · exact .refl

theorem configureQueue_reaches {change : Q → Q} : Reaches self (configureQueue self change) := by
  unfold configureQueue
  split_ifs
  iterate 3 exact .refl

theorem writeDriverFeatures_reaches {val : BitVec 32} : Reaches self (writeDriverFeatures self val) := by
  unfold writeDriverFeatures
  split_ifs
  iterate 4 exact .refl

theorem writeRegister_reaches {registers : QueueRegisters Q} {self : VirtioConsole Q} {offset : Nat}
    {val : BitVec 32} (stays : ¬ (offset % 2 ^ 32 = 0x70 ∧ val = 0)) :
    Reaches self (writeRegister api registers self offset val world) := by
  unfold writeRegister
  split
  · exact .refl
  · exact .refl
  · exact writeDriverFeatures_reaches
  · exact .refl
  · exact configureQueue_reaches
  · exact configureQueue_reaches
  · exact notify_reaches api
  · exact .refl
  · next status =>
    rw [if_neg fun zero => stays ⟨status,zero⟩]
    exact setStatus_reaches api
  iterate 6 exact configureQueue_reaches
  exact .refl

theorem mmioWrite_reaches {registers : QueueRegisters Q} {self : VirtioConsole Q} {offset : Nat} {data : List UInt8}
    (stays : ¬ Resets offset data) : Reaches self (mmioWrite api registers self offset data world) := by
  unfold mmioWrite
  split
  · exact .refl
  · next register =>
    split
    · exact .refl
    · next width =>
      rw [not_not] at width
      exact writeRegister_reaches api fun both => stays ⟨register,width,both⟩

theorem acts_of_reaches (lossy : Prop) (before after : View) (path : Relation.ReflTransGen Part before after) :
    Relation.ReflTransGen (Act lossy) before after :=
  path.lift (fun view => view) fun _ _ part => .part _ part

theorem drainPortTx_act {lossy : Prop} {self : VirtioConsole Q} {port : Fin 3} :
    Act lossy (view self) (view (drainPortTx self port)) := by
  have same : view (drainPortTx self port) = ((view self).setPort port {(view self).ports port with txBuf := []}).log
      [.drained port ((view self).ports port).txBuf] := congrArg (View.log · _) (view_setPort ..)
  rw [same]
  exact .drained port

variable (self)

theorem step_acts {lossy : Prop} {registers : QueueRegisters Q} {self : VirtioConsole Q} {event : Event ω}
    (allowed : lossy ∨ Streaming self event) :
    Relation.ReflTransGen (Act lossy) (view self) (view (step api registers self event)) := by
  cases event with
  | setMem => exact .refl
  | queueInput port data turns =>
    have pushed := @Act.pushed lossy (view self) port data allowed
    have drained := acts_of_reaches lossy _ _ (drainPendingRx_reaches api (emit (setPort self port
      {self.ports port with pendingRx := (self.ports port).pendingRx ++ data}) (.pushed port data)) port turns)
    refine .head ?_ drained
    change Act lossy _ ((view (setPort _ _ _)).log _)
    rw [view_setPort]
    exact pushed
  | mmioWrite offset data world =>
    by_cases resets : Resets offset data
    · have same : mmioWrite api registers self offset data world = reset api registers self world := by
        obtain ⟨register,width,status,zero⟩ := resets
        rw [mmioWrite,if_neg register,if_neg (not_not.mpr width),writeRegister,status,zero]
        rfl
      have path := foldl_reaches (fun self port => drainTxIntoCaptureBuf api self port (world (.tx port)))
        (fun self port => drainTx_reaches api self port _) [0,1,2] self
      rw [step,same]
      exact (acts_of_reaches lossy _ _ path).tail (.reset (allowed.resolve_right (not_not.mpr resets)))
    · exact acts_of_reaches lossy _ _ (mmioWrite_reaches api resets)
  | drainPortTx port => exact .single drainPortTx_act
  | finalDrain turns =>
    exact (acts_of_reaches lossy _ _ (processTx_reaches api self 1 turns)).tail drainPortTx_act
  | pushBackBulk bytes =>
    rw [step,pushBackBulk]
    split
    · exact .refl
    · refine .single ?_
      change Act lossy _ ((view (setPort _ _ _)).log _)
      rw [view_setPort]
      exact .pushedBack bytes
  | clearPort2PendingRx =>
    refine .single ?_
    rw [step,clearPort2PendingRx,view_setPort]
    exact .cleared (allowed.resolve_right id)

end

end Ktstr.ConsoleRefinement
