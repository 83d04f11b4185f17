import Ktstr.ConsoleRefinement
import Ktstr.Library.Runs

/-! Both directions of every console port carry each byte once and in order. -/
namespace Ktstr.ConsoleStreams
open List Library.Runs Library.Scatter Source.VmMemory Source.Console Semantics.PortStreams Semantics.ConsoleParts
  Nat UInt32
open ConsoleRefinement
open Source.BlkRequest (ChainDescriptor)
open Source.Drain (Chain QueueApi)
open Source.Registers (QueueRegisters)

variable (split : Nat) (pending : List UInt8)

theorem stage_eq (consumedOffset chunk : Nat) :
    stage split pending consumedOffset chunk = (pending.drop consumedOffset).take chunk := by
  have parts : pending.drop consumedOffset =
      (pending.take split).drop consumedOffset ++ (pending.drop split).drop (consumedOffset - (pending.take split).length) := by
    conv_lhs => rw [← take_append_drop split pending]
    exact drop_append
  have skip : consumedOffset - min consumedOffset (pending.take split).length =
      consumedOffset - (pending.take split).length := by omega
  have head : (pending.take split).drop (min consumedOffset (pending.take split).length) =
      (pending.take split).drop consumedOffset := by
    rcases le_total consumedOffset (pending.take split).length with low | high
    · rw [min_eq_left low]
    · rw [min_eq_right high,drop_of_length_le high,drop_length]
  have tail : (if consumedOffset - (pending.take split).length < (pending.drop split).length then
      (pending.drop split).drop (consumedOffset - (pending.take split).length) else []) =
      (pending.drop split).drop (consumedOffset - (pending.take split).length) := by
    split
    · rfl
    · next beyond => rw [drop_of_length_le (Nat.le_of_not_lt beyond)]
  rw [stage,parts,take_append]
  simp only [skip,head]
  congr 1
  · rw [min_comm,← take_eq_take_min]
  · split
    · next short =>
      rw [← take_eq_take_min]
      congr 1
      omega
    · next long =>
      rw [Nat.sub_eq_zero_of_le (by omega),take_zero]

section
variable (split : Nat) (pending : List UInt8) (desc : ChainDescriptor) (descs : List ChainDescriptor) (state : Fill)

theorem fillChain_write (takes : desc.isWriteOnly ∧ state.consumedOffset < pending.length)
    (whole : (fillChain split pending (desc::descs) state).torn = false) :
    let chunk := min (pending.length - state.consumedOffset) desc.len.toNat
    ∃ mem : GuestMemoryMmap, fillChain split pending (desc::descs) state = fillChain split pending descs
        ⟨mem,state.consumedOffset + chunk,state.written + ofNat chunk,false⟩ ∧
      mem.byte = store state.mem.byte desc.addr.toNat ((pending.drop state.consumedOffset).take desc.len.toNat) := by
  have staged : (pending.drop state.consumedOffset).take
      (min (pending.length - state.consumedOffset) desc.len.toNat) =
      (pending.drop state.consumedOffset).take desc.len.toNat := by
    rw [min_comm,← length_drop,← take_eq_take_min]
  have size : ((pending.drop state.consumedOffset).take desc.len.toNat).length =
      min (pending.length - state.consumedOffset) desc.len.toNat := by
    rw [length_take,length_drop,min_comm]
  rw [fillChain,if_pos takes] at whole ⊢
  simp only [stage_eq,staged,GuestMemoryMmap.writeSlice,size] at whole ⊢
  by_cases accepted : state.mem.accepts desc.addr (min (pending.length - state.consumedOffset) desc.len.toNat)
  · rw [if_pos accepted]
    exact ⟨_,rfl,rfl⟩
  · rw [if_neg accepted] at whole
    contradiction

end

theorem fillChain_scatters (descs : List ChainDescriptor) (state : Fill)
    (within : state.consumedOffset ≤ pending.length) (counted : state.written = ofNat state.consumedOffset)
    (whole : (fillChain split pending descs state).torn = false) :
    let extents := (descs.filter ChainDescriptor.isWriteOnly).map extent
    let final := fillChain split pending descs state
    final.mem.byte = scatter state.mem.byte extents (pending.drop state.consumedOffset) ∧
      final.consumedOffset = min pending.length (state.consumedOffset + total extents) ∧
      final.written = ofNat final.consumedOffset := by
  induction descs generalizing state with
  | nil => exact ⟨rfl,by simpa [total,fillChain] using within,counted⟩
  | cons desc descs ih =>
    by_cases takes : desc.isWriteOnly ∧ state.consumedOffset < pending.length
    · obtain ⟨mem,next,stored⟩ := fillChain_write split pending desc descs state takes whole
      rw [next] at whole ⊢
      have count : state.written + ofNat (min (pending.length - state.consumedOffset) desc.len.toNat) =
          ofNat (state.consumedOffset + min (pending.length - state.consumedOffset) desc.len.toNat) := by
        rw [counted,ofNat_add]
      obtain ⟨bytes,consumed,written⟩ := ih ⟨mem,_,_,false⟩ (by simp only; omega) count whole
      simp only [filter_cons,takes.1,if_true,map_cons,scatter,extent,total,sum_cons,drop_drop]
      refine ⟨?_,?_,written⟩
      · -- past the end of the pending bytes both offsets leave nothing to scatter
        have past : pending.drop (state.consumedOffset + min (pending.length - state.consumedOffset) desc.len.toNat) =
            pending.drop (state.consumedOffset + desc.len.toNat) := by
          rcases le_total desc.len.toNat (pending.length - state.consumedOffset) with fits | beyond
          · rw [min_eq_right fits]
          · rw [min_eq_left beyond]
            exact (drop_of_length_le (by omega)).trans (drop_of_length_le (by omega)).symm
        rw [bytes,stored,past]
      · rw [consumed]
        simp only [total]
        omega
    · rw [fillChain,if_neg takes] at whole ⊢
      obtain ⟨bytes,consumed,written⟩ := ih state within counted whole
      by_cases writeOnly : desc.isWriteOnly
      · have done : pending.length ≤ state.consumedOffset := by simpa [writeOnly] using takes
        simp only [filter_cons,writeOnly,drop_of_length_le done,scatter_nil] at bytes ⊢
        refine ⟨bytes,?_,written⟩
        omega
      · simp only [filter_cons,writeOnly]
        exact ⟨bytes,consumed,written⟩

theorem fillChain_covered (chain : Chain) (mem : GuestMemoryMmap) (small : pending.length < 2 ^ 32)
    (apart : (writable chain).Pairwise Apart)
    (whole : (fillChain split pending chain.descriptors {mem := mem}).torn = false) :
    let fill := fillChain split pending chain.descriptors {mem := mem}
    covered fill.mem chain fill.written = pending.take fill.consumedOffset := by
  obtain ⟨bytes,consumed,written⟩ :=
    fillChain_scatters split pending chain.descriptors {mem := mem} (zero_le _) rfl whole
  simp only [zero_add] at bytes consumed
  have exact : (fillChain split pending chain.descriptors {mem := mem}).written.toNat =
      min pending.length (total (writable chain)) := by
    rw [written,consumed,toNat_ofNat_of_lt' (by
      show _ < 2 ^ 32
      omega)]
    rfl
  simp only [covered]
  rw [exact,consumed,bytes]
  exact gather_scatter_take mem.byte pending apart

theorem rxq_inj (port other : Fin 3) : rxq port = rxq other ↔ port = other := by
  revert port other
  decide

theorem txq_inj (port other : Fin 3) : txq port = txq other ↔ port = other := by
  revert port other
  decide

/-- What the host pushed is what was delivered and what is still pending. -/
def RxExact (self : View) : Prop :=
  Separate self.history → ∀ port,
    pushedTo port self.history = delivered port self.history ++ (self.ports port).pendingRx ∧
    (self.ports port).pendingRx.length < 2 ^ 32

/-- What was captured is what was popped for transmission, and the capture buffer is what
the appends, drains and push-backs made of it. -/
def TxExact (self : View) : Prop :=
  ∀ port, captured port self.history = transmitted port self.history ∧
    buffered port self.history = (self.ports port).txBuf

section
variable (self : View)

theorem RxExact.grow {self : View} (exact : RxExact self) {ports : Fin 3 → Port} {out : List ControlOut} {ready : Bool}
    {effects : List Effect} (same : ∀ port, (ports port).pendingRx = (self.ports port).pendingRx)
    (quiet : ∀ port, pushedTo port effects = [] ∧ delivered port effects = []) :
    RxExact ⟨ports,out,ready,self.history ++ effects⟩ := by
  intro separate port
  have earlier := exact (separate.shorten _ _ ⟨_,rfl⟩) port
  simp only [pushedTo_append,delivered_append,(quiet port).1,(quiet port).2,append_nil,same]
  exact earlier

theorem TxExact.grow {self : View} (exact : TxExact self) {ports : Fin 3 → Port} {out : List ControlOut} {ready : Bool}
    {effects : List Effect} (quiet : ∀ port, captured port effects = [] ∧ transmitted port effects = [])
    (buffer : ∀ port, effects.foldl (bufferStep port) (self.ports port).txBuf = (ports port).txBuf) :
    TxExact ⟨ports,out,ready,self.history ++ effects⟩ := by
  intro port
  simp only [captured_append,transmitted_append,(quiet port).1,(quiet port).2,append_nil,buffered_append,
    (exact port).2,buffer]
  exact ⟨(exact port).1,trivial⟩

theorem received_rx {port : Fin 3} {chain : Chain} {mem : GuestMemoryMmap} (split : Nat) (fill : Fill)
    (recorded : .popped (rxq port) chain mem ∈ self.history)
    (filled : fillChain split (self.ports port).pendingRx chain.descriptors {mem := mem} = fill) (whole : fill.torn = false)
    (exact : RxExact self) :
    RxExact ((self.setPort port
      {self.ports port with pendingRx := (self.ports port).pendingRx.drop fill.consumedOffset}).log
        [.published (rxq port) chain.headIndex fill.written (covered fill.mem chain fill.written)]) := by
  subst filled
  intro separate other
  have earlier := exact (separate.shorten _ _ ⟨_,rfl⟩)
  have apart := separate port chain mem (mem_append_left _ recorded)
  have bytes := fillChain_covered split (self.ports port).pendingRx chain mem (earlier port).2 apart whole
  have history := (earlier other).1
  by_cases here : other = port
  · subst here
    simp only [View.log,View.setPort,pushedTo_append,Function.update_self,history]
    refine ⟨?_,length_drop ▸ (Nat.sub_le ..).trans_lt (earlier other).2⟩
    simp [pushedTo,delivered,bytes]
  · have foreign : port ≠ other := Ne.symm here
    simp only [View.log,View.setPort,pushedTo_append,Function.update_of_ne here,history]
    refine ⟨?_,(earlier other).2⟩
    simp [pushedTo,delivered,rxq_inj,foreign]

theorem captured_tx {port : Fin 3} {chain : Chain} {mem : GuestMemoryMmap} (exact : TxExact self) :
    TxExact ((self.log [.popped (txq port) chain mem]).capture port (pieces mem chain.descriptors)) := by
  have bytes : chainBytes mem chain = (pieces mem chain.descriptors).flatten := by
    unfold chainBytes pieces
    induction chain.descriptors.filter fun desc => !desc.isWriteOnly with
    | nil => rfl
    | cons desc descs ih =>
      rw [flatMap_cons,ih,filterMap_cons]
      cases mem.readSlice desc.addr (min desc.len.toNat txDescMax) <;> rfl
  have got (other : Fin 3) (list : List (List UInt8)) :
      captured other (list.map (.appended port)) = if port = other then list.flatten else [] := by
    induction list with
    | nil => simp [captured]
    | cons piece list ih =>
      rw [map_cons,← singleton_append,captured_append,ih]
      by_cases here : port = other <;> simp [captured,here]
  have stored (other : Fin 3) (buffer : List UInt8) (list : List (List UInt8)) :
      (list.map (.appended port)).foldl (bufferStep other) buffer =
        if port = other then buffer ++ list.flatten else buffer := by
    induction list generalizing buffer with
    | nil => simp
    | cons piece list ih =>
      rw [map_cons,foldl_cons,ih]
      by_cases here : port = other <;> simp [bufferStep,here]
  have owed (other : Fin 3) (list : List (List UInt8)) : transmitted other (list.map (.appended port)) = [] := by
    simp [transmitted]
  intro other
  simp only [View.capture,View.log,View.setPort,captured_append,transmitted_append,buffered_append,got,owed,stored,
    (exact other).1,(exact other).2,foldl_cons,foldl_nil,bufferStep]
  by_cases here : port = other
  · subst here
    simp [captured,transmitted,bytes]
  · simp [captured,transmitted,txq_inj,here,Ne.symm here]

theorem part_rx (next : View) (part : Part self next) (exact : RxExact self) : RxExact next := by
  have port {index : Fin 3} {port : Port} (same : port.pendingRx = (self.ports index).pendingRx) :=
    setPort_field self Port.pendingRx index port same
  cases part with
  | popped index chain mem foreign =>
    exact exact.grow (fun _ => rfl) (fun _ => ⟨rfl,rfl⟩)
  | returned index head len bytes empty =>
    refine exact.grow (fun _ => rfl) (fun port => ⟨rfl,?_⟩)
    rcases empty with rfl | ⟨-,rfl⟩
    · simp [delivered,control_foreign.2.2.1]
    · simp [delivered]
  | captured index chain mem =>
    have popped : RxExact (self.log [.popped (txq index) chain mem]) :=
      exact.grow (fun _ => rfl) (fun _ => ⟨rfl,rfl⟩)
    exact popped.grow (port rfl) (fun _ => by simp [pushedTo,delivered])
  | received index chain mem split fill recorded filled whole =>
    exact received_rx self split fill recorded filled whole exact
  | announced fresh => exact exact.grow (fun _ => rfl) (fun _ => ⟨rfl,rfl⟩)
  | answered index id found fresh => exact exact.grow (port rfl) (fun _ => ⟨rfl,rfl⟩)
  | sent message messages chain mem final written waiting recorded room wrote =>
    refine exact.grow (fun _ => rfl) (fun port => ⟨rfl,?_⟩)
    simp [delivered,control_foreign.1]

theorem act_rx (next : View) (act : Act False self next) (exact : RxExact self) : RxExact next := by
  have port {index : Fin 3} {port : Port} (same : port.pendingRx = (self.ports index).pendingRx) :=
    setPort_field self Port.pendingRx index port same
  cases act with
  | part next part => exact part_rx self next part exact
  | pushed port data fits =>
    intro separate other
    have earlier := exact (separate.shorten _ _ ⟨_,rfl⟩) other
    have small := fits.resolve_left id
    by_cases here : other = port
    · subst here
      simp only [View.log,View.setPort,pushedTo_append,Function.update_self,earlier.1,length_append]
      refine ⟨?_,small⟩
      simp [pushedTo,delivered]
    · simpa [View.log,View.setPort,pushedTo,delivered,here,Ne.symm here] using earlier
  | drained index => exact exact.grow (port rfl) (fun _ => ⟨rfl,rfl⟩)
  | pushedBack bytes => exact exact.grow (port rfl) (fun _ => ⟨rfl,rfl⟩)
  | cleared allowed => exact allowed.elim
  | reset allowed => exact allowed.elim

theorem part_tx (next : View) (part : Part self next) (exact : TxExact self) : TxExact next := by
  have port {index : Fin 3} {port : Port} (same : port.txBuf = (self.ports index).txBuf) (other : Fin 3) :=
    (setPort_field self Port.txBuf index port same other).symm
  cases part with
  | popped index chain mem foreign =>
    refine exact.grow (fun port => ⟨rfl,?_⟩) (fun _ => rfl)
    simp [transmitted,foreign port]
  | returned index head len bytes empty => exact exact.grow (fun _ => ⟨rfl,rfl⟩) (fun _ => rfl)
  | captured index chain mem => exact captured_tx self exact
  | received index chain mem split fill recorded filled whole =>
    exact exact.grow (fun _ => ⟨rfl,rfl⟩) (port rfl)
  | announced fresh => exact exact.grow (fun _ => ⟨rfl,rfl⟩) (fun _ => rfl)
  | answered index id found fresh => exact exact.grow (fun _ => ⟨rfl,rfl⟩) (port rfl)
  | sent message messages chain mem final written waiting recorded room wrote =>
    exact exact.grow (fun _ => ⟨rfl,rfl⟩) (fun _ => rfl)

theorem act_tx (next : View) (act : Act True self next) (exact : TxExact self) : TxExact next := by
  have port {index : Fin 3} {port : Port} (same : port.txBuf = (self.ports index).txBuf) (other : Fin 3) :=
    (setPort_field self Port.txBuf index port same other).symm
  cases act with
  | part next part => exact part_tx self next part exact
  | pushed index data fits => exact exact.grow (fun _ => ⟨rfl,rfl⟩) (port rfl)
  | drained index =>
    refine exact.grow (fun _ => ⟨rfl,rfl⟩) (fun other => ?_)
    by_cases here : index = other
    · subst here
      simp [bufferStep,View.setPort]
    · simp [bufferStep,View.setPort,here,Ne.symm here]
  | pushedBack bytes =>
    refine exact.grow (fun _ => ⟨rfl,rfl⟩) (fun other => ?_)
    by_cases here : 1 = other
    · subst here
      simp [bufferStep,View.setPort]
    · simp [bufferStep,View.setPort,here,Ne.symm here]
  | cleared allowed =>
    intro other
    rw [← (setPort_field self Port.txBuf 2 {self.ports 2 with pendingRx := []} rfl other).symm]
    exact exact other
  | reset allowed => exact exact.grow (fun _ => ⟨rfl,rfl⟩) (fun _ => rfl)

end

section
variable {Q ω : Type} (api : QueueApi Q ω)

/-- In every run of the device the captured bytes of a port are those of the chains popped
from its transmit queue, in order, and the capture buffer holds what the appends, drains
and push-backs left. In a run without resets, and over receive chains whose buffers lie
apart, the bytes pushed to a port are those delivered in published chains followed by
those pending. -/
theorem console_streams_exact (registers : QueueRegisters Q) (queues : Fin 8 → Q) (events : List (Event ω)) :
    let final := run (step api registers) (new queues) events
    (Throughout (step api registers) Streaming (new queues) events → Separate final.history → ∀ port,
      pushedTo port final.history = delivered port final.history ++ (final.ports port).pendingRx) ∧
    ∀ port, captured port final.history = transmitted port final.history ∧
      buffered port final.history = (final.ports port).txBuf := by
  have startRx : RxExact (view (new queues)) := fun _ _ => ⟨rfl,by simp [view,new]⟩
  have startTx : TxExact (view (new queues)) := fun _ => ⟨rfl,rfl⟩
  constructor
  · intro legal separate port
    have exact := run_guarded (step api registers) Streaming (fun self => RxExact (view self))
      (fun self event streaming => acts_keep act_rx (step_acts api (Or.inr streaming)))
      (new queues) events legal startRx
    exact (exact separate port).1
  · exact run_invariant (step api registers) (fun self => TxExact (view self))
      (fun self event => acts_keep act_tx (step_acts api (Or.inl trivial)))
      (new queues) events startTx

end

instance {Q ω : Type} (self : VirtioConsole Q) : (event : Event ω) → Decidable (Streaming self event)
  | .setMem | .drainPortTx _ | .finalDrain _ | .pushBackBulk _ => isTrue trivial
  | .queueInput port data _ => inferInstanceAs (Decidable ((self.ports port).pendingRx.length + data.length < 2 ^ 32))
  | .mmioWrite offset data _ => inferInstanceAs (Decidable (¬ Resets offset data))
  | .clearPort2PendingRx => isFalse id

/-- A receive queue with one chain of two buffers, three and four bytes long. -/
def twoBuffers : Fin 8 → PostedQueue
  | 0 => {chains := [⟨7,[⟨4096,3,true⟩,⟨8192,4,true⟩]⟩]}
  | _ => {}

def blankTurn : Turn Bool := ⟨true,⟨fun _ => 0,fun _ _ => true,fun _ _ => 0⟩,2,true⟩

local instance somePorts : NeZero 3 := ⟨by decide⟩

def backlog : List (Event Bool) :=
  [.setMem,.queueInput 0 [1,2,3,4,5] [],.mmioWrite 0x70 [1,0,0,0] fun _ => [],.mmioWrite 0x70 [3,0,0,0] fun _ => [],
    .mmioWrite 0x70 [11,0,0,0] fun _ => [],.mmioWrite 0x44 [1,0,0,0] fun _ => [],
    .mmioWrite 0x70 [15,0,0,0] fun _ => [blankTurn]]

theorem backlog_delivered_at_driver_ok :
    let final := run (step postedQueue postedRegisters) (new twoBuffers) backlog
    delivered 0 final.history = [1,2,3,4,5] ∧
      pushedTo 0 final.history = delivered 0 final.history ++ (final.ports 0).pendingRx := by
  refine ⟨by decide,?_⟩
  exact (console_streams_exact postedQueue postedRegisters twoBuffers backlog).1 (by decide)
    (fun port => apart_of_popsApart _ (by decide) (rxq port)) 0

end Ktstr.ConsoleStreams
