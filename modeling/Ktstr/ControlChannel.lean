import Mathlib.Data.List.Perm.Subperm
import Ktstr.ConsoleRefinement
import Ktstr.Library.Runs

/-! The control channel of the console against any guest: few messages, each enqueued once and sent whole and in order. -/
namespace Ktstr.ControlChannel
open List Library.Runs Library.Scatter Source.VmMemory Source.Console Semantics.PortStreams Semantics.ConsoleParts
  ControlOut Port
open ConsoleRefinement
open Source.BlkRequest (ChainDescriptor)
open Source.Drain (Chain QueueApi dataLen)
open Source.Registers (QueueRegisters)

def keepStep (kept : List Effect) : Effect → List Effect
  | .reset => []
  | effect => kept ++ [effect]

def sinceReset (history : List Effect) : List Effect := history.foldl keepStep []

/-- Messages put into the queue since the last reset. -/
def enqueued (history : List Effect) : List ControlOut :=
  (sinceReset history).flatMap fun
    | .enqueued messages => messages
    | _ => []

/-- What the guest was told to be there on its control queue, since the last reset. -/
def sent (history : List Effect) : List (List UInt8) :=
  (sinceReset history).flatMap fun
    | .published queue _ len bytes => if queue = cIvq ∧ len ≠ 0 then [bytes] else []
    | _ => []

def topic : ControlOut → UInt16 × UInt32
  | .cmd control => (control.event,control.id)
  | .name id _ => (evPortName,id)

/-- No message is of the kind and for the port of another, and a port is named right before it is opened. -/
structure Orderly (messages : List ControlOut) : Prop where
  few : messages.length ≤ 10
  once : (messages.map topic).Nodup
  named : ∀ id, (evPortOpen,id) ∈ messages.map topic →
    ∃ before after, messages.map topic = before ++ [(evPortName,id),(evPortOpen,id)] ++ after

def SeparateControl (history : List Effect) : Prop :=
  ∀ chain mem, .popped cIvq chain mem ∈ history → (writable chain).Pairwise Apart

/-! Histories -/

def plain : Effect → Bool
  | .reset | .enqueued _ => false
  | .published queue _ len _ => queue ≠ cIvq || len == 0
  | _ => true

variable (history : List Effect)

theorem sinceReset_append {effects : List Effect} (kept : .reset ∉ effects) :
    sinceReset (history ++ effects) = sinceReset history ++ effects := by
  induction effects using List.reverseRecOn with
  | nil => simp
  | append_singleton effects effect ih =>
    rw [mem_append,not_or,mem_singleton] at kept
    rw [← append_assoc,sinceReset,foldl_append,← sinceReset,ih kept.1]
    cases effect with
    | reset => exact absurd rfl kept.2
    | _ => exact append_assoc ..

theorem plain_append {effects : List Effect} (quiet : ∀ effect ∈ effects, plain effect) :
    enqueued (history ++ effects) = enqueued history ∧ sent (history ++ effects) = sent history := by
  unfold enqueued sent
  rw [sinceReset_append _ fun member => absurd (quiet _ member) (by decide),flatMap_append,flatMap_append]
  constructor
  · rw [append_right_eq_self,flatMap_eq_nil_iff]
    intro effect member
    cases effect with
    | enqueued messages => cases quiet _ member
    | _ => rfl
  · rw [append_right_eq_self,flatMap_eq_nil_iff]
    intro effect member
    cases effect with
    | published queue head len bytes =>
      have foreign : queue ≠ cIvq ∨ len = 0 := by simpa [plain] using quiet _ member
      exact if_neg fun both => foreign.elim (· both.1) both.2
    | _ => rfl

theorem enqueued_append (messages : List ControlOut) :
    enqueued (history ++ [.enqueued messages]) = enqueued history ++ messages ∧
      sent (history ++ [.enqueued messages]) = sent history := by
  unfold enqueued sent
  rw [sinceReset_append _ (by simp)]
  simp

theorem sent_append (head : UInt16) {len : UInt32} (bytes : List UInt8) (some : len ≠ 0) :
    enqueued (history ++ [.published cIvq head len bytes]) = enqueued history ∧
      sent (history ++ [.published cIvq head len bytes]) = sent history ++ [bytes] := by
  unfold enqueued sent
  rw [sinceReset_append _ (by simp)]
  simp [some]

theorem reset_append : enqueued (history ++ [.reset]) = [] ∧ sent (history ++ [.reset]) = [] := by
  simp [enqueued,sent,sinceReset,keepStep]

/-! What has been enqueued -/

def topics : List (UInt16 × UInt32) :=
  [(evPortAdd,0),(evPortAdd,1),(evPortAdd,2),(evConsolePort,0),(evPortName,0),(evPortOpen,0),(evPortName,1),(evPortOpen,1),
    (evPortName,2),(evPortOpen,2)]

private structure Ledger (entries : List (UInt16 × UInt32)) (ready : Bool) (readied : Fin 3 → Bool) : Prop where
  known : ∀ entry ∈ entries, entry ∈ topics
  once : entries.Nodup
  named : ∀ id, (evPortOpen,id) ∈ entries →
    ∃ before after, entries = before ++ [(evPortName,id),(evPortOpen,id)] ++ after
  unannounced : ready = false → ∀ entry ∈ entries, entry.1 ≠ evPortAdd
  unanswered : ∀ port, readied port = false → ∀ entry ∈ entries, entry.1 ≠ evPortAdd → entry.2.toNat ≠ port

variable {readied : Fin 3 → Bool}

theorem Ledger.orderly {messages : List ControlOut} {ready : Bool}
    (ledger : Ledger (messages.map topic) ready readied) : Orderly messages := by
  refine ⟨?_,ledger.once,ledger.named⟩
  have few := (ledger.once.subperm ledger.known).length_le
  rwa [length_map] at few

theorem Ledger.announced {entries : List (UInt16 × UInt32)} (ledger : Ledger entries false readied) :
    Ledger (entries ++ announcements.map topic) true readied := by
  have added : ∀ entry ∈ announcements.map topic, entry.1 = evPortAdd ∧ entry ∈ topics := by
    rw [show announcements.map topic = [(evPortAdd,0),(evPortAdd,1),(evPortAdd,2)] from rfl]
    simp [topics]
  constructor
  · intro entry member
    exact (mem_append.mp member).elim (ledger.known entry) fun new => (added entry new).2
  · refine nodup_append.mpr ⟨ledger.once,by decide,?_⟩
    rintro entry old other new rfl
    exact ledger.unannounced rfl entry old (added entry new).1
  · intro id member
    rcases mem_append.mp member with old | new
    · obtain ⟨before,after,split⟩ := ledger.named id old
      exact ⟨before,after ++ _,by rw [split,append_assoc]⟩
    · exact absurd (added _ new).1 (show evPortOpen ≠ evPortAdd by decide)
  · nofun
  · intro port fresh entry member other
    rcases mem_append.mp member with old | new
    · exact ledger.unanswered port fresh entry old other
    · exact absurd (added entry new).1 other

theorem Ledger.answered {entries : List (UInt16 × UInt32)} {ready : Bool}
    (ledger : Ledger entries ready readied) (port : Fin 3) (id : UInt32) (found : portOf id = some port)
    (fresh : readied port = false) (label : String) :
    Ledger (entries ++ (readyReplies id label).map topic) ready (Function.update readied port true) := by
  obtain ⟨inside,rfl⟩ : ∃ inside : id.toNat < 3, (⟨id.toNat,inside⟩ : Fin 3) = port := by
    unfold portOf at found
    split at found
    · next inside => exact ⟨inside,Option.some.inj found⟩
    · cases found
  have mine : ∀ entry ∈ (readyReplies id label).map topic, entry.2 = id ∧ entry.1 ≠ evPortAdd ∧ entry ∈ topics := by
    have numbered : id = 0 ∨ id = 1 ∨ id = 2 := by
      have cases : id.toNat = 0 ∨ id.toNat = 1 ∨ id.toNat = 2 := by omega
      exact cases.imp (fun zero => UInt32.toNat.inj zero) (.imp (fun one => UInt32.toNat.inj one) fun two => UInt32.toNat.inj two)
    rcases numbered with rfl | rfl | rfl
    · simp [readyReplies,topic,topics,evConsolePort,evPortName,evPortOpen,evPortAdd]
    · simp [readyReplies,topic,topics,evPortName,evPortOpen,evPortAdd]
    · simp [readyReplies,topic,topics,evPortName,evPortOpen,evPortAdd]
  constructor
  · intro entry member
    exact (mem_append.mp member).elim (ledger.known entry) fun new => (mine entry new).2.2
  · refine nodup_append.mpr ⟨ledger.once,?_,?_⟩
    · by_cases zero : id = 0 <;> simp [readyReplies,topic,zero,evConsolePort,evPortName,evPortOpen]
    · rintro entry old other new rfl
      obtain ⟨same,kind,-⟩ := mine entry new
      exact ledger.unanswered _ fresh entry old kind (by rw [same])
  · intro other member
    rcases mem_append.mp member with old | new
    · obtain ⟨before,after,split⟩ := ledger.named other old
      exact ⟨before,after ++ _,by rw [split,append_assoc]⟩
    · obtain rfl : other = id := (mine _ new).1
      refine ⟨entries ++ if other = 0 then [(evConsolePort,other)] else [],[],?_⟩
      by_cases zero : other = 0 <;> simp [readyReplies,topic,zero]
  · intro early entry member
    exact (mem_append.mp member).elim (ledger.unannounced early entry) fun new => (mine entry new).2.1
  · intro other early entry member kind
    have apart : other ≠ ⟨id.toNat,inside⟩ := by
      rintro rfl
      simp at early
    rw [Function.update_of_ne apart] at early
    rcases mem_append.mp member with old | new
    · exact ledger.unanswered other early entry old kind
    · rw [(mine entry new).1]
      exact fun same => apart (Fin.ext same.symm)

/-! What is sent -/

theorem writeControl_scatters (segs : List ChainDescriptor) (message : List UInt8) (mem final : GuestMemoryMmap)
    (before written : Nat) (wrote : writeControl segs message mem before = (final,written,false)) :
    final.byte = scatter mem.byte (segs.map extent) message ∧
      written = before + min message.length (total (segs.map extent)) := by
  induction segs generalizing message mem before with
  | nil =>
    obtain ⟨rfl,rfl,-⟩ : mem = final ∧ before = written ∧ false = false := by simpa [writeControl] using wrote
    exact ⟨rfl,by simp [total]⟩
  | cons seg segs ih =>
    unfold writeControl at wrote
    split at wrote
    · next empty =>
      obtain ⟨rfl,rfl,-⟩ : mem = final ∧ before = written ∧ false = false := by simpa using wrote
      rw [empty,scatter_nil]
      exact ⟨rfl,by simp⟩
    · have chunk : message.take (min seg.len.toNat message.length) = message.take seg.len.toNat :=
        take_eq_take_min.symm
      have rest : message.drop (min seg.len.toNat message.length) = message.drop seg.len.toNat := by
        rcases Nat.le_total seg.len.toNat message.length with fits | beyond
        · rw [Nat.min_eq_left fits]
        · rw [Nat.min_eq_right beyond,drop_length,drop_of_length_le beyond]
      simp only [GuestMemoryMmap.writeSlice,chunk,rest] at wrote
      split_ifs at wrote
      · obtain ⟨bytes,count⟩ := ih _ _ _ wrote
        refine ⟨bytes,?_⟩
        rw [count]
        simp only [total,extent,map_cons,sum_cons,length_drop]
        omega
      · simp at wrote

private def Sound (message : ControlOut) : Prop :=
  message.bytes.length = message.len ∧ 0 < message.len ∧ message.len < 2 ^ 32

theorem sound_cmd {control : VirtioConsoleControl} : Sound (.cmd control) :=
  ⟨by simp [ControlOut.bytes,ControlOut.len,VirtioConsoleControl.asBytes,leBytes,vcControlSize],
    show 0 < 8 by decide,show 8 < 2 ^ 32 by decide⟩

theorem sound_name {id : UInt32} {port : Fin 3} : Sound (.name id (portName port)) := by
  have size : (ControlOut.name id (portName port)).bytes.length = 8 + (portName port).toUTF8.toList.length + 1 := by
    simp [ControlOut.bytes,VirtioConsoleControl.asBytes,leBytes]
    omega
  have label : (portName port).toUTF8.toList.length = (portName port).utf8ByteSize ∧ (portName port).utf8ByteSize < 16 := by
    clear size
    revert port
    decide +kernel
  rw [Sound,ControlOut.len,vcControlSize]
  omega

theorem sent_whole {message : ControlOut} {chain : Chain} {mem final : GuestMemoryMmap} {written : Nat}
    (sound : Sound message)
    (room : message.len ≤ dataLen (chain.descriptors.filter ChainDescriptor.isWriteOnly))
    (wrote : writeControl (chain.descriptors.filter ChainDescriptor.isWriteOnly) message.bytes mem 0 =
      (final,written,false)) :
    UInt32.ofNat written ≠ 0 ∧
      ((writable chain).Pairwise Apart → covered final chain (UInt32.ofNat written) = message.bytes) := by
  obtain ⟨size,some,small⟩ := sound
  obtain ⟨bytes,count⟩ := writeControl_scatters _ _ _ _ _ _ wrote
  have whole : total ((chain.descriptors.filter ChainDescriptor.isWriteOnly).map extent) =
      dataLen (chain.descriptors.filter ChainDescriptor.isWriteOnly) := by
    simp [total,dataLen,extent,Function.comp_def]
  have exact : written = message.bytes.length := by omega
  have number : (UInt32.ofNat written).toNat = written := UInt32.toNat_ofNat_of_lt' (by
    show _ < 2 ^ 32
    omega)
  constructor
  · intro zero
    rw [zero] at number
    change 0 = written at number
    omega
  · intro apart
    have read := gather_scatter_take mem.byte message.bytes apart
    rw [Nat.min_eq_left (by unfold writable; omega),take_length] at read
    rw [covered,bytes,number,exact]
    exact read

/-! Whole runs -/

def Fine (moment : List Effect) : Prop :=
  Orderly (enqueued moment) ∧ (SeparateControl moment → sent moment <+: (enqueued moment).map ControlOut.bytes)

structure Channel (state : View) : Prop where
  ledger : Ledger ((enqueued state.history).map topic) state.deviceReady fun port => (state.ports port).readied
  moments : ∀ moment, moment <+: state.history → Fine moment
  rest : state.controlOut <:+ enqueued state.history
  sound : ∀ message ∈ enqueued state.history, Sound message
  exact : SeparateControl state.history →
    (enqueued state.history).map ControlOut.bytes = sent state.history ++ state.controlOut.map ControlOut.bytes
  names : ∀ port, (state.ports port).name = portName port

theorem SeparateControl.shorten {before after : List Effect} (separate : SeparateControl after) (grows : before <+: after) :
    SeparateControl before :=
  fun chain mem member => separate chain mem (grows.subset member)

section
variable {self : View} (channel : Channel self)
include channel

theorem Channel.keeps {ports : Fin 3 → Port} {effects : List Effect} (quiet : ∀ effect ∈ effects, plain effect)
    (readied : ∀ port, (ports port).readied = (self.ports port).readied)
    (names : ∀ port, (ports port).name = (self.ports port).name) :
    Channel ⟨ports,self.controlOut,self.deviceReady,self.history ++ effects⟩ := by
  obtain ⟨same,published⟩ := plain_append self.history quiet
  refine ⟨?_,?_,?_,?_,?_,fun port => (names port).trans (channel.names port)⟩
  · simpa only [same,readied] using channel.ledger
  · intro moment initial
    rcases prefix_or_prefix_of_prefix initial (prefix_append self.history effects) with old | ⟨later,rfl⟩
    · exact channel.moments moment old
    · have within := plain_append self.history fun effect member =>
        quiet effect (((prefix_append_right_inj _).mp initial).subset member)
      obtain ⟨orderly,initial⟩ := channel.moments self.history prefix_rfl
      rw [Fine,within.1,within.2]
      exact ⟨orderly,fun separate => initial (separate.shorten (prefix_append ..))⟩
  · simpa only [same] using channel.rest
  · simpa only [same] using channel.sound
  · intro separate
    simp only [same,published]
    exact channel.exact (separate.shorten (prefix_append ..))

theorem Channel.takes {next : View} {effect : Effect} (history : next.history = self.history ++ [effect])
    (ledger : Ledger ((enqueued next.history).map topic) next.deviceReady fun port => (next.ports port).readied)
    (rest : next.controlOut <:+ enqueued next.history) (sound : ∀ message ∈ enqueued next.history, Sound message)
    (exact : SeparateControl next.history →
      (enqueued next.history).map ControlOut.bytes = sent next.history ++ next.controlOut.map ControlOut.bytes)
    (names : ∀ port, (next.ports port).name = (self.ports port).name) : Channel next := by
  refine ⟨ledger,?_,rest,sound,exact,fun port => (names port).trans (channel.names port)⟩
  intro moment initial
  rw [history] at initial
  rcases prefix_concat_iff.mp initial with rfl | old
  · rw [← history]
    exact ⟨ledger.orderly,fun separate => ⟨_,(exact separate).symm⟩⟩
  · exact channel.moments moment old

theorem Channel.enqueues {ports : Fin 3 → Port} {ready : Bool} {messages : List ControlOut}
    (ledger : Ledger ((enqueued self.history ++ messages).map topic) ready fun port => (ports port).readied)
    (sound : ∀ message ∈ messages, Sound message) (names : ∀ port, (ports port).name = (self.ports port).name) :
    Channel ⟨ports,self.controlOut ++ messages,ready,self.history ++ [.enqueued messages]⟩ := by
  obtain ⟨grown,same⟩ := enqueued_append self.history messages
  refine channel.takes rfl ?_ ?_ ?_ ?_ names
  · simpa only [grown] using ledger
  · obtain ⟨before,whole⟩ := channel.rest
    exact ⟨before,by rw [grown,← whole,append_assoc]⟩
  · rw [grown]
    intro message member
    exact (mem_append.mp member).elim (channel.sound message) (sound message)
  · intro separate
    rw [grown,same,map_append,map_append,← append_assoc,channel.exact (separate.shorten (prefix_append ..))]

theorem Channel.sends {message : ControlOut} {messages : List ControlOut} {chain : Chain} {mem final : GuestMemoryMmap}
    {written : Nat} (waiting : self.controlOut = message::messages) (recorded : .popped cIvq chain mem ∈ self.history)
    (room : message.len ≤ dataLen (chain.descriptors.filter ChainDescriptor.isWriteOnly))
    (wrote : writeControl (chain.descriptors.filter ChainDescriptor.isWriteOnly) message.bytes mem 0 =
      (final,written,false)) :
    Channel ({self with controlOut := messages}.log
      [.published cIvq chain.headIndex (UInt32.ofNat written) (covered final chain (UInt32.ofNat written))]) := by
  have known := channel.rest.subset (waiting ▸ mem_cons_self)
  obtain ⟨some,whole⟩ := sent_whole (channel.sound message known) room wrote
  obtain ⟨same,grown⟩ := sent_append self.history chain.headIndex
    (covered final chain (UInt32.ofNat written)) some
  refine channel.takes rfl ?_ ?_ ?_ ?_ fun _ => rfl
  · simpa only [View.log,same] using channel.ledger
  · rw [View.log,same]
    exact List.IsSuffix.trans ⟨[message],waiting.symm⟩ channel.rest
  · simpa only [View.log,same] using channel.sound
  · intro separate
    have apart := whole (separate chain mem (mem_append_left _ recorded))
    rw [View.log,same,grown,apart,channel.exact (separate.shorten (prefix_append ..)),waiting,map_cons,
      append_assoc,singleton_append]

theorem Channel.part {next : View} (part : Part self next) : Channel next := by
  have port {index : Fin 3} {port : Port} {α : Type} (field : Port → α) (same : field port = field (self.ports index)) :=
    setPort_field self field index port same
  cases part with
  | popped index chain mem foreign => exact channel.keeps (by simp [plain]) (fun _ => rfl) fun _ => rfl
  | returned index head len bytes empty =>
    refine channel.keeps ?_ (fun _ => rfl) fun _ => rfl
    rcases empty with rfl | ⟨rfl,-⟩
    · simp [plain,cIvq,cOvq]
    · simp [plain]
  | captured index chain mem =>
    have popped : Channel (self.log [.popped (txq index) chain mem]) :=
      channel.keeps (by simp [plain]) (fun _ => rfl) fun _ => rfl
    exact popped.keeps (by simp [plain]) (port readied rfl) (port name rfl)
  | received index chain mem split fill recorded filled whole =>
    exact channel.keeps (by simp [plain,control_foreign.1.symm]) (port readied rfl)
      (port name rfl)
  | announced fresh =>
    have ledger := channel.ledger
    rw [fresh] at ledger
    refine channel.enqueues ?_ ?_ fun _ => rfl
    · rw [map_append]
      exact ledger.announced
    · intro message member
      obtain ⟨port,-,rfl⟩ := mem_map.mp member
      exact sound_cmd
  | answered index id found fresh =>
    refine channel.enqueues ?_ ?_ (port name rfl)
    · have readied : (fun other => ((self.setPort index {self.ports index with readied := true}).ports other).readied) =
          Function.update (fun other => (self.ports other).readied) index true := by
        funext other
        by_cases here : other = index
        · subst here
          simp [View.setPort]
        · simp [View.setPort,here]
      rw [map_append,readied]
      exact channel.ledger.answered index id found fresh (self.ports index).name
    · rw [channel.names index]
      intro message member
      rcases mem_append.mp member with first | ⟨_ | ⟨_,_ | ⟨_,none⟩⟩⟩
      · split at first
        · rw [mem_singleton.mp first]
          exact sound_cmd
        · cases first
      · exact sound_name
      · exact sound_cmd
      · cases none
  | sent message messages chain mem final written waiting recorded room wrote =>
    exact channel.sends waiting recorded room wrote

theorem Channel.act {next : View} (act : Act True self next) : Channel next := by
  have port {index : Fin 3} {port : Port} {α : Type} (field : Port → α) (same : field port = field (self.ports index)) :=
    setPort_field self field index port same
  cases act with
  | part next part => exact channel.part part
  | pushed index data fits =>
    exact channel.keeps (by simp [plain]) (port readied rfl) (port name rfl)
  | drained index => exact channel.keeps (by simp [plain]) (port readied rfl) (port name rfl)
  | pushedBack bytes => exact channel.keeps (by simp [plain]) (port readied rfl) (port name rfl)
  | cleared allowed =>
    have cleared := channel.keeps (fun _ none => absurd none not_mem_nil)
      (setPort_field self readied 2 {self.ports 2 with pendingRx := []} rfl) (port name rfl)
    rw [append_nil] at cleared
    exact cleared
  | reset allowed =>
    obtain ⟨none,nothing⟩ := reset_append self.history
    refine channel.takes rfl ?_ ?_ ?_ ?_ fun _ => rfl
    · rw [View.reset,none]
      exact ⟨by simp,by simp,by simp,by simp,by simp⟩
    · simp [View.reset]
    · simp [View.reset,none]
    · simp [View.reset,none,nothing]

end

section
variable {Q ω : Type} (api : QueueApi Q ω)

/-- Whatever the guest sends, writes and resets: the queue of control messages never grows beyond ten, no message is
enqueued twice between two resets, and the guest receives, whole and in order, those that are no longer in the queue. -/
theorem control_channel_exact (registers : QueueRegisters Q) (queues : Fin 8 → Q) (events : List (Event ω)) :
    let final := run (step api registers) (new queues) events
    final.controlOut.length ≤ 10 ∧ final.controlOut <:+ enqueued final.history ∧
      (∀ moment, moment <+: final.history → Orderly (enqueued moment)) ∧
      (SeparateControl final.history →
        (∀ moment, moment <+: final.history → sent moment <+: (enqueued moment).map bytes) ∧
        (enqueued final.history).map bytes = sent final.history ++ final.controlOut.map bytes) := by
  have start : Channel (view (new queues)) := by
    refine ⟨⟨nofun,nodup_nil,nofun,nofun,nofun⟩,?_,nil_suffix,nofun,fun _ => rfl,fun _ => rfl⟩
    intro moment initial
    rw [prefix_nil.mp initial]
    exact ⟨⟨by decide,nodup_nil,nofun⟩,fun _ => nil_prefix⟩
  have channel := run_invariant (step api registers) (fun self => Channel (view self))
    (fun self event => acts_keep (fun self next act channel => channel.act act)
      (step_acts api (Or.inl trivial))) (new queues) events start
  refine ⟨?_,channel.rest,fun moment initial => (channel.moments moment initial).1,fun separate => ⟨?_,channel.exact separate⟩⟩
  · exact channel.rest.length_le.trans (channel.moments _ prefix_rfl).1.few
  · intro moment initial
    exact (channel.moments moment initial).2 fun chain mem member => separate chain mem (initial.subset member)

end

/-- The guest's first message, and three chains of two buffers for the answers. -/
def handshakeQueues : Fin 8 → PostedQueue
  | 2 => {chains := [⟨1,[⟨8192,3,true⟩,⟨12288,16,true⟩]⟩,⟨2,[⟨8192,3,true⟩,⟨12288,16,true⟩]⟩]}
  | 3 => {chains := [⟨7,[⟨4096,8,false⟩]⟩]}
  | _ => {}

def readyTurn : Turn Bool := ⟨true,⟨fun address => if address = 4102 then 1 else 0,fun _ _ => true,fun _ _ => 0⟩,0,true⟩

def handshake : List (Event Bool) :=
  [.setMem,.mmioWrite 0x70 [1,0,0,0] fun _ => [],.mmioWrite 0x70 [3,0,0,0] fun _ => [],
    .mmioWrite 0x20 [2,0,0,0] fun _ => [],.mmioWrite 0x70 [11,0,0,0] fun _ => [],
    .mmioWrite 0x30 [2,0,0,0] fun _ => [],.mmioWrite 0x44 [1,0,0,0] fun _ => [],
    .mmioWrite 0x70 [15,0,0,0] fun _ => [],.mmioWrite 0x50 [3,0,0,0] fun _ => [readyTurn,readyTurn]]

theorem two_ports_announced :
    let final := run (step postedQueue postedRegisters) (new handshakeQueues) handshake
    sent final.history = [[0,0,0,0,1,0,1,0],[1,0,0,0,1,0,1,0]] ∧ final.controlOut.length = 1 ∧
      (enqueued final.history).map bytes = sent final.history ++ final.controlOut.map bytes := by
  refine ⟨by decide,by decide,?_⟩
  refine ((control_channel_exact postedQueue postedRegisters handshakeQueues handshake).2.2.2 ?_).2
  exact fun chain mem member => apart_of_popsApart _ (by decide) cIvq chain mem member

end Ktstr.ControlChannel
