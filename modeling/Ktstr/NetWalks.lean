import Ktstr.Source.Net

/-! What the two descriptor walks of the loopback device compute: neither runs out of
range but for the table of header places, a chain walked to its end holds header and
frame in order, and a transmitted chain is captured whole. -/
namespace Ktstr.NetWalks
open List Library.Bytes Library.Scatter Library.Words Source.VmMemory Source.Net Nat UInt64 GuestMemoryMmap
open Source.BlkRequest (ChainDescriptor)
open Source.Drain (Chain)

def payload (frame : List UInt8) : List UInt8 := rxHdr ++ frame

variable (frame : List UInt8)

@[simp] theorem payload_length : (payload frame).length = 12 + frame.length := by
  exact length_append

/-- The walk stands after the first `bytes_written` bytes of the payload. -/
structure Sound (frame : List UInt8) (state : RxWalk) : Prop where
  hdr : state.hdrRemaining = 12 - state.bytesWritten
  pos : state.framePos = state.bytesWritten - 12
  within : state.bytesWritten ≤ 12 + frame.length
  slots : state.slots.length ≤ 12
  short : ∀ slot ∈ state.slots, slot.2 ≤ 12

variable (mem : GuestMemoryMmap)

theorem sound_start : Sound frame {mem := mem} :=
  ⟨rfl,rfl,zero_le _,zero_le _,by simp⟩

section
variable (frame : List UInt8) (desc : ChainDescriptor) (state : RxWalk)

def took : Nat := min state.hdrRemaining desc.len.toNat

def piece : List UInt8 := (rxHdr.drop state.bytesWritten).take (took desc state)

theorem took_le : took desc state ≤ state.hdrRemaining ∧ took desc state ≤ desc.len.toNat :=
  ⟨min_le_left _ _,min_le_right _ _⟩

variable {frame state}

theorem piece_length (sound : Sound frame state) : (piece desc state).length = took desc state := by
  have size : rxHdr.length = 12 := rfl
  have hdr := sound.hdr
  have least := took_le desc state
  rw [piece,length_take,length_drop]
  omega

theorem addrAdd_eq (addr : UInt64) (offset : Nat) :
    addrAdd addr offset = if addr.toNat + offset < wordSpan then some (ofNat (addr.toNat + offset)) else none := by
  unfold addrAdd checkedAdd
  split <;> rfl

variable (state)

def headed : RxWalk :=
  {state with
    mem := {state.mem with byte := store state.mem.byte desc.addr.toNat (piece desc state)},
    slots := state.slots ++ [(desc.addr,took desc state)]}

theorem placeHeader_eq (sound : Sound frame state) (some' : 0 < state.hdrRemaining) :
    placeHeader state desc.addr desc.len.toNat =
      if state.mem.accepts desc.addr (took desc state) then
        if state.slots.length < 12 then
          if desc.addr.toNat + took desc state < wordSpan then
            some ({headed desc state with
              bytesWritten := state.bytesWritten + took desc state,
              hdrRemaining := state.hdrRemaining - took desc state},
              .ok (desc.len.toNat - took desc state,ofNat (desc.addr.toNat + took desc state)))
          else some (headed desc state,.error .shape)
        else none
      else
        some ({state with mem := (state.mem.writeSlice (piece desc state) desc.addr).1},.error .writeFailed) := by
  have hdr := sound.hdr
  obtain ⟨least,least'⟩ := took_le desc state
  have start : hdrLen - state.hdrRemaining = state.bytesWritten := by
    unfold hdrLen
    omega
  have inside : state.bytesWritten + took desc state ≤ rxHdr.length := by
    have : rxHdr.length = 12 := rfl
    omega
  have whole : subslice rxHdr state.bytesWritten (state.bytesWritten + took desc state) = some (piece desc state) := by
    rw [subslice,if_pos ⟨le_add_right _ _,inside⟩,slice_eq]
    rfl
  have counted : checkedAdd32 state.bytesWritten (took desc state) = some (state.bytesWritten + took desc state) := by
    exact if_pos (by omega)
  rw [placeHeader,if_pos some',checkedSub_of_le (by unfold hdrLen; omega),start]
  change (subslice rxHdr state.bytesWritten (state.bytesWritten + took desc state)).bind _ = _
  rw [whole]
  simp only [Option.bind_some,writeSlice,piece_length desc sound]
  by_cases accepted : state.mem.accepts desc.addr (took desc state)
  · rw [if_pos accepted,if_pos accepted]
    by_cases room : state.slots.length < 12
    · rw [if_pos room]
      have slot : pushSlot state.slots (desc.addr,took desc state) = some (state.slots ++ [(desc.addr,took desc state)]) :=
        if_pos room
      change (pushSlot state.slots (desc.addr,took desc state)).bind _ = _
      rw [slot]
      have sum := addrAdd_eq desc.addr (took desc state)
      by_cases fits : desc.addr.toNat + took desc state < wordSpan
      · rw [if_pos fits] at sum ⊢
        rw [show addrAdd desc.addr (min state.hdrRemaining desc.len.toNat) = _ from sum]
        change (checkedAdd32 state.bytesWritten (took desc state)).bind _ = _
        rw [counted]
        change (checkedSub state.hdrRemaining (took desc state)).bind _ = _
        rw [checkedSub_of_le least]
        change (checkedSub desc.len.toNat (took desc state)).bind _ = _
        rw [checkedSub_of_le least']
        rfl
      · rw [if_neg fits] at sum ⊢
        rw [show addrAdd desc.addr (min state.hdrRemaining desc.len.toNat) = _ from sum]
        rfl
    · rw [if_neg room]
      simp [pushSlot,hdrLen,room]
  · rw [if_neg accepted,if_neg accepted]
    rfl

end

section
variable (frame : List UInt8) (state : RxWalk) (addr : UInt64) (len : Nat)

theorem placeFrame_eq (sound : Sound frame state) (small : frame.length ≤ maxFrameSize) :
    let bytes := (frame.drop state.framePos).take len
    placeFrame frame frame.length state addr len =
      if state.mem.accepts addr bytes.length then
        some ({state with
          mem := {state.mem with byte := store state.mem.byte addr.toNat bytes},
          bytesWritten := state.bytesWritten + bytes.length,framePos := state.framePos + bytes.length},true)
      else some ({state with mem := (state.mem.writeSlice bytes addr).1},false) := by
  intro bytes
  have pos := sound.pos
  have within := sound.within
  have short : state.framePos ≤ frame.length := by omega
  have size : bytes.length = min len (frame.length - state.framePos) := by rw [length_take,length_drop]
  have piece : subslice frame state.framePos (state.framePos + bytes.length) = some bytes := by
    rw [subslice,if_pos ⟨le_add_right _ _,by omega⟩,slice_eq,size,← length_drop,← take_eq_take_min]
  have counted : checkedAdd32 state.bytesWritten bytes.length = some (state.bytesWritten + bytes.length) := by
    unfold maxFrameSize at small
    exact if_pos (by omega)
  rw [placeFrame,checkedSub_of_le short]
  simp only [Option.bind_eq_bind,Option.bind_some]
  rw [← size,piece]
  simp only [Option.bind_some,writeSlice]
  by_cases accepted : state.mem.accepts addr bytes.length
  · rw [if_pos accepted,if_pos accepted]
    rw [counted]
    rfl
  · rw [if_neg accepted,if_neg accepted]
    rfl

end

structure Headed (state : RxWalk) (desc : ChainDescriptor) : Prop where
  accepted : 0 < state.hdrRemaining → state.mem.accepts desc.addr (took desc state)
  room : 0 < state.hdrRemaining → state.slots.length < 12
  fits : 0 < state.hdrRemaining → desc.addr.toNat + took desc state < wordSpan

def slotsAfter (state : RxWalk) (desc : ChainDescriptor) : List (UInt64 × Nat) :=
  if 0 < state.hdrRemaining then state.slots ++ [(desc.addr,took desc state)] else state.slots

inductive Outcome (frame : List UInt8) (desc : ChainDescriptor) (descs : List ChainDescriptor) (state : RxWalk) :
    Option (RxWalk × Option InvalidReason) → Prop
  | jammed (some' : 0 < state.hdrRemaining) (accepted : state.mem.accepts desc.addr (took desc state))
      (full : 12 ≤ state.slots.length) : Outcome frame desc descs state none
  | headerRefused (final : RxWalk) (some' : 0 < state.hdrRemaining)
      (refused : state.mem.accepts desc.addr (took desc state) = false) (slots : final.slots = state.slots)
      (mem : final.mem = (state.mem.writeSlice (piece desc state) desc.addr).1) :
      Outcome frame desc descs state (some (final,some .writeFailed))
  | headerOverflow (final : RxWalk) (some' : 0 < state.hdrRemaining)
      (accepted : state.mem.accepts desc.addr (took desc state)) (room : state.slots.length < 12)
      (beyond : ¬ desc.addr.toNat + took desc state < wordSpan) (slots : final.slots = slotsAfter state desc)
      (mem : final.mem = {state.mem with byte := store state.mem.byte desc.addr.toNat (piece desc state)}) :
      Outcome frame desc descs state (some (final,some .shape))
  | frameRefused (final : RxWalk) (bytes : List UInt8) (headed : Headed state desc)
      (more : took desc state < desc.len.toNat) (slots : final.slots = slotsAfter state desc) (fits : bytes.length ≤ desc.len.toNat - took desc state)
      (mem : final.mem = {state.mem with
        byte := store (store state.mem.byte desc.addr.toNat (piece desc state))
          (desc.addr.toNat + took desc state) bytes}) :
      Outcome frame desc descs state (some (final,some .writeFailed))
  | placed (next : RxWalk) (stop : Bool) (headed : Headed state desc) (sound : Sound frame next)
      (slots : next.slots = slotsAfter state desc)
      (count : next.bytesWritten = min (12 + frame.length) (state.bytesWritten + desc.len.toNat))
      (mem : next.mem = {state.mem with
        byte := store state.mem.byte desc.addr.toNat
          (((payload frame).drop state.bytesWritten).take desc.len.toNat)})
      (done : stop → next.bytesWritten = 12 + frame.length) :
      Outcome frame desc descs state (if stop then some (next,none) else rxWalk frame frame.length descs next)

section
variable (frame : List UInt8) (desc : ChainDescriptor) (descs : List ChainDescriptor) (state : RxWalk)

/-- The walk between the header and the frame part of a descriptor. -/
def between : RxWalk :=
  if 0 < state.hdrRemaining then
    {headed desc state with
      bytesWritten := state.bytesWritten + took desc state,hdrRemaining := state.hdrRemaining - took desc state}
  else state

variable {state}

theorem between_sound (sound : Sound frame state) (headed : Headed state desc) :
    Sound frame (between desc state) := by
  obtain ⟨hdr,pos,within,slots,short⟩ := sound
  unfold between
  split
  · next some' =>
    have room := headed.room some'
    have least : took desc state ≤ state.hdrRemaining := min_le_left _ _
    refine ⟨?_,?_,?_,?_,?_⟩
    · dsimp only
      omega
    · dsimp only [NetWalks.headed]
      omega
    · dsimp only
      omega
    · simp only [NetWalks.headed,length_append,length_singleton]
      omega
    · intro slot member
      simp only [NetWalks.headed,mem_append,mem_singleton] at member
      rcases member with old | rfl
      · exact short slot old
      · simp only
        omega
  · exact ⟨hdr,pos,within,slots,short⟩

theorem took_none (zero : ¬ 0 < state.hdrRemaining) : took desc state = 0 := by
  unfold took
  omega

theorem piece_done (zero : ¬ 0 < state.hdrRemaining) : piece desc state = [] := by
  rw [piece,took_none desc zero,take_zero]

theorem between_mem :
    (between desc state).mem = {state.mem with byte := store state.mem.byte desc.addr.toNat (piece desc state)} := by
  unfold between
  split
  · rfl
  · next zero => rw [piece_done desc zero,store_nil]

theorem between_slots : (between desc state).slots = slotsAfter state desc := by
  unfold between slotsAfter
  split <;> rfl

variable (state)

def rest : Option (RxWalk × Option InvalidReason) :=
  if desc.len.toNat - took desc state = 0 ∨ (between desc state).framePos = frame.length then
    rxWalk frame frame.length descs (between desc state)
  else
    (placeFrame frame frame.length (between desc state) (UInt64.ofNat (desc.addr.toNat + took desc state))
      (desc.len.toNat - took desc state)).bind fun
      | (state,false) => some (state,some .writeFailed)
      | (state,true) =>
        if state.framePos = frame.length ∧ state.hdrRemaining = 0 then some (state,none)
        else rxWalk frame frame.length descs state

theorem between_pos : (between desc state).framePos = state.framePos := by
  unfold between
  split <;> rfl

theorem between_count : (between desc state).bytesWritten = state.bytesWritten + took desc state := by
  unfold between took
  split
  · rfl
  · omega

/-- What a descriptor takes of the frame. -/
def part : List UInt8 := (frame.drop state.framePos).take (desc.len.toNat - took desc state)

theorem part_length : (part frame desc state).length =
    min (desc.len.toNat - took desc state) (frame.length - state.framePos) := by
  rw [part,length_take,length_drop]

variable {frame state}

theorem payload_part (sound : Sound frame state) :
    ((payload frame).drop state.bytesWritten).take desc.len.toNat = piece desc state ++ part frame desc state := by
  have size : (rxHdr.drop state.bytesWritten).length = state.hdrRemaining := by
    rw [length_drop,sound.hdr]
    rfl
  have header : (rxHdr.drop state.bytesWritten).take desc.len.toNat = piece desc state := by
    rw [piece,took,← size,min_comm,← take_eq_take_min]
  have beyond : desc.len.toNat - state.hdrRemaining = desc.len.toNat - took desc state := by
    unfold took
    omega
  rw [payload,drop_append,take_append,header,size,beyond,part,sound.pos]
  rfl

theorem rest_addr (headed : Headed state desc) :
    (ofNat (desc.addr.toNat + took desc state)).toNat = desc.addr.toNat + took desc state := by
  apply toNat_ofNat_of_lt'
  by_cases some' : 0 < state.hdrRemaining
  · exact headed.fits some'
  · rw [took_none desc some']
    exact desc.addr.toNat_lt

theorem store_part (sound : Sound frame state) (memory : Nat → UInt8) :
    store (store memory desc.addr.toNat (piece desc state)) (desc.addr.toNat + took desc state) (part frame desc state) =
      store memory desc.addr.toNat (((payload frame).drop state.bytesWritten).take desc.len.toNat) := by
  rw [payload_part desc sound,← piece_length desc sound,store_store]

theorem rest_outcome (sound : Sound frame state) (headed : Headed state desc)
    (small : frame.length ≤ maxFrameSize) : Outcome frame desc descs state (rest frame desc descs state) := by
  have middle := between_sound frame desc sound headed
  have count := between_count desc state
  have hdr := sound.hdr
  have pos := sound.pos
  have within := sound.within
  have least : took desc state ≤ state.hdrRemaining := min_le_left _ _
  have least' : took desc state ≤ desc.len.toNat := min_le_right _ _
  have size := part_length frame desc state
  have either : took desc state = state.hdrRemaining ∨ took desc state = desc.len.toNat := by
    unfold took
    omega
  unfold rest
  rw [between_pos]
  split
  · next idle =>
    have none : part frame desc state = [] := length_eq_zero_iff.mp (by omega)
    refine Outcome.placed (between desc state) false headed middle (between_slots desc) ?_ ?_ (by simp)
    · rw [count]
      omega
    · rw [between_mem,← store_part desc sound,none,store_nil]
  · next busy =>
    have full : (between desc state).hdrRemaining = 0 := by
      rw [middle.hdr]
      omega
    rw [placeFrame_eq frame (between desc state) _ _ middle small,between_pos]
    split
    · let next : RxWalk := {between desc state with
        mem := {(between desc state).mem with
          byte := store (between desc state).mem.byte (ofNat (desc.addr.toNat + took desc state)).toNat
            (part frame desc state)},
        bytesWritten := (between desc state).bytesWritten + (part frame desc state).length,
        framePos := state.framePos + (part frame desc state).length}
      have written : next.bytesWritten = state.bytesWritten + took desc state + (part frame desc state).length := by
        rw [← count]
      have soundNext : Sound frame next := by
        refine ⟨?_,?_,?_,middle.slots,middle.short⟩
        · rw [written]
          change (between desc state).hdrRemaining = _
          omega
        · rw [written]
          change state.framePos + _ = _
          omega
        · omega
      have placed : Outcome frame desc descs state _ := Outcome.placed next
        (decide (next.framePos = frame.length ∧ next.hdrRemaining = 0)) headed soundNext (between_slots desc)
        (by rw [written]; omega) (by
          change (mk _ _ _) = _
          rw [rest_addr desc headed,between_mem]
          simp only [store_part desc sound])
        (by
          rw [decide_eq_true_eq]
          have pos' := soundNext.pos
          omega)
      simp only [decide_eq_true_eq] at placed
      exact placed
    · next refused =>
      refine Outcome.frameRefused _ ((part frame desc state).take ((between desc state).mem.torn
        (ofNat (desc.addr.toNat + took desc state)) (part frame desc state).length))
        headed (by omega) (between_slots desc) ?_ ?_
      · exact (length_take_le' _ _).trans (length_take_le _ _)
      · simp only [writeSlice,refused]
        rw [rest_addr desc headed,between_mem]
        rfl

theorem rxWalk_outcome (sound : Sound frame state) (small : frame.length ≤ maxFrameSize)
    (writeOnly : desc.isWriteOnly) : Outcome frame desc descs state (rxWalk frame frame.length (desc::descs) state) := by
  rw [rxWalk,if_neg (by simp [writeOnly])]
  by_cases some' : 0 < state.hdrRemaining
  · rw [placeHeader_eq desc state sound some']
    by_cases accepted : state.mem.accepts desc.addr (took desc state)
    · rw [if_pos accepted]
      by_cases room : state.slots.length < 12
      · rw [if_pos room]
        have slots : state.slots ++ [(desc.addr,took desc state)] = slotsAfter state desc := (if_pos some').symm
        by_cases fits : desc.addr.toNat + took desc state < wordSpan
        · rw [if_pos fits]
          have next := rest_outcome desc descs sound ⟨fun _ => accepted,fun _ => room,fun _ => fits⟩ small
          rw [rest,between,if_pos some'] at next
          exact next
        · rw [if_neg fits]
          exact Outcome.headerOverflow _ some' accepted room fits slots rfl
      · rw [if_neg room]
        exact Outcome.jammed some' accepted (Nat.le_of_not_lt room)
    · rw [if_neg accepted]
      exact Outcome.headerRefused _ some' (Bool.eq_false_of_not_eq_true accepted) rfl rfl
  · have next := rest_outcome desc descs sound
      ⟨fun some => absurd some some',fun some => absurd some some',fun some => absurd some some'⟩ small
    rw [rest,between,if_neg some',took_none desc some',Nat.add_zero,UInt64.ofNat_toNat] at next
    rw [placeHeader,if_neg some']
    exact next

end

/-- Twelve descriptors that take header bytes and hold fewer than twelve between them fill
the table of places, and a thirteenth is given header bytes as well. -/
structure Jams (mem : GuestMemoryMmap) (slots room : Nat) (descs : List ChainDescriptor) : Prop where
  long : slots < descs.length
  writable : ∀ desc ∈ descs.take (slots + 1), desc.isWriteOnly
  few : ((descs.take slots).map fun desc => desc.len.toNat).sum < room
  placed : ∀ desc ∈ descs.take slots, mem.accepts desc.addr desc.len.toNat ∧
    desc.addr.toNat + desc.len.toNat < wordSpan
  next : ∀ desc ∈ descs[slots]?, mem.accepts desc.addr
    (min (room - ((descs.take slots).map fun desc => desc.len.toNat).sum) desc.len.toNat)

variable (desc : ChainDescriptor) (descs : List ChainDescriptor)

theorem jams_zero (room : Nat) (desc : ChainDescriptor) (descs : List ChainDescriptor) :
    Jams mem 0 room (desc::descs) ↔
      desc.isWriteOnly ∧ 0 < room ∧ mem.accepts desc.addr (min room desc.len.toNat) := by
  constructor
  · rintro ⟨-,writable,few,-,next⟩
    exact ⟨writable desc (by simp),by simpa using few,by simpa using next⟩
  · rintro ⟨writable,some,next⟩
    exact ⟨by simp,by simpa using writable,by simpa using some,by simp,by simpa using next⟩

theorem jams_succ (slots room : Nat) (desc : ChainDescriptor) (descs : List ChainDescriptor) :
    Jams mem (slots + 1) room (desc::descs) ↔ desc.isWriteOnly ∧ desc.len.toNat < room ∧
      mem.accepts desc.addr desc.len.toNat ∧ desc.addr.toNat + desc.len.toNat < wordSpan ∧
      Jams mem slots (room - desc.len.toNat) descs := by
  constructor
  · rintro ⟨long,writable,few,placed,next⟩
    simp only [take_succ_cons,map_cons,sum_cons,forall_mem_cons,length_cons,
      getElem?_cons_succ] at long writable few placed next
    refine ⟨writable.1,by omega,placed.1.1,placed.1.2,by omega,writable.2,by omega,placed.2,?_⟩
    rwa [Nat.sub_sub]
  · rintro ⟨writeOnly,less,accepted,fits,long,writable,few,placed,next⟩
    rw [Nat.sub_sub] at next
    refine ⟨by simpa using long,?_,?_,?_,?_⟩
    · exact forall_mem_cons.mpr ⟨writeOnly,writable⟩
    · rw [take_succ_cons,map_cons,sum_cons]
      omega
    · exact forall_mem_cons.mpr ⟨⟨accepted,fits⟩,placed⟩
    · simpa using next

theorem Jams.room_pos (slots room : Nat) (descs : List ChainDescriptor) (jams : Jams mem slots room descs) :
    0 < room := (zero_le _).trans_lt jams.few

theorem jams_placed (state next : RxWalk) (writeOnly : desc.isWriteOnly) (headed : Headed state desc)
    (slots : next.slots = slotsAfter state desc) (mem : next.mem.accepts = state.mem.accepts)
    (hdr : next.hdrRemaining = state.hdrRemaining - desc.len.toNat) :
    Jams state.mem (12 - state.slots.length) state.hdrRemaining (desc::descs) ↔
      Jams next.mem (12 - next.slots.length) next.hdrRemaining descs := by
  have same (slots room : Nat) : Jams next.mem slots room descs ↔ Jams state.mem slots room descs := by
    constructor
    · rintro ⟨long,writable,few,placed,last⟩
      exact ⟨long,writable,few,mem ▸ placed,mem ▸ last⟩
    · rintro ⟨long,writable,few,placed,last⟩
      exact ⟨long,writable,few,mem ▸ placed,mem ▸ last⟩
  by_cases some' : 0 < state.hdrRemaining
  · have room := headed.room some'
    have count : next.slots.length = state.slots.length + 1 := by
      rw [slots,slotsAfter,if_pos some',length_append,length_singleton]
    rw [same,show 12 - state.slots.length = 12 - next.slots.length + 1 by omega,jams_succ,hdr]
    constructor
    · rintro ⟨-,-,-,-,jams⟩
      exact jams
    · intro jams
      have less : desc.len.toNat < state.hdrRemaining := by
        have := jams.room_pos
        omega
      have all := min_eq_right less.le
      exact ⟨writeOnly,less,all ▸ headed.accepted some',all ▸ headed.fits some',jams⟩
  · constructor
    · intro jams
      exact absurd jams.room_pos some'
    · intro jams
      have := jams.room_pos
      omega

theorem rxWalk_panics_iff (small : frame.length ≤ maxFrameSize) (descs : List ChainDescriptor) (state : RxWalk)
    (sound : Sound frame state) : rxWalk frame frame.length descs state = none ↔
      Jams state.mem (12 - state.slots.length) state.hdrRemaining descs := by
  induction descs generalizing state with
  | nil =>
    constructor
    · intro panics
      simp [rxWalk] at panics
    · intro jams
      exact absurd jams.long (not_lt_zero _)
  | cons desc descs ih =>
    by_cases writeOnly : desc.isWriteOnly
    · have outcome := rxWalk_outcome desc descs sound small writeOnly
      generalize rxWalk frame frame.length (desc::descs) state = result at outcome
      cases outcome with
      | jammed some' accepted full =>
        rw [Nat.sub_eq_zero_of_le full,jams_zero]
        exact ⟨fun _ => ⟨writeOnly,some',accepted⟩,fun _ => rfl⟩
      | headerRefused final some' refused slots mem =>
        refine ⟨fun panics => by simp at panics,fun jams => ?_⟩
        cases left : 12 - state.slots.length with
        | zero =>
          rw [left,jams_zero] at jams
          exact absurd jams.2.2 (by rw [← took,refused]; simp)
        | succ left' =>
          rw [left,jams_succ] at jams
          have all : took desc state = desc.len.toNat := min_eq_right jams.2.1.le
          rw [all,jams.2.2.1] at refused
          contradiction
      | headerOverflow final some' accepted room' beyond slots mem =>
        refine ⟨fun panics => by simp at panics,fun jams => ?_⟩
        rw [show 12 - state.slots.length = 11 - state.slots.length + 1 by omega,jams_succ] at jams
        have all : took desc state = desc.len.toNat := min_eq_right jams.2.1.le
        rw [all] at beyond
        exact absurd jams.2.2.2.1 beyond
      | frameRefused final bytes headed more slots fits mem =>
        refine ⟨fun panics => by simp at panics,fun jams => ?_⟩
        have some' := jams.room_pos
        have room' := headed.room some'
        rw [show 12 - state.slots.length = 11 - state.slots.length + 1 by omega,jams_succ] at jams
        have all : took desc state = desc.len.toNat := min_eq_right jams.2.1.le
        omega
      | placed next stop headed soundNext slots count mem done =>
        have hdr := sound.hdr
        have hdr' := soundNext.hdr
        have step := jams_placed desc descs state next writeOnly headed slots (mem ▸ rfl) (by omega)
        cases stop with
        | true =>
          refine ⟨fun panics => by simp at panics,fun jams => ?_⟩
          have some' := (step.mp jams).room_pos
          have all := done rfl
          omega
        | false => exact (ih next soundNext).trans step.symm
    · constructor
      · intro panics
        simp [rxWalk,writeOnly] at panics
      · intro jams
        exact absurd (jams.writable desc (by simp)) writeOnly

def buffers (descs : List ChainDescriptor) : List Extent := (descs.filter ChainDescriptor.isWriteOnly).map extent

theorem buffers_cons (writeOnly : desc.isWriteOnly) : buffers (desc::descs) = extent desc::buffers descs := by
  simp [buffers,writeOnly]

theorem rxWalk_delivers (small : frame.length ≤ maxFrameSize) (descs : List ChainDescriptor) (state final : RxWalk)
    (sound : Sound frame state) (walked : rxWalk frame frame.length descs state = some (final,none)) :
    final.mem.byte = scatter state.mem.byte (buffers descs) ((payload frame).drop state.bytesWritten) ∧
      final.bytesWritten = min (12 + frame.length) (state.bytesWritten + total (buffers descs)) ∧
      Sound frame final := by
  induction descs generalizing state with
  | nil =>
    cases walked
    exact ⟨rfl,(min_eq_right sound.within).symm,sound⟩
  | cons desc descs ih =>
    by_cases writeOnly : desc.isWriteOnly
    · have outcome := rxWalk_outcome desc descs sound small writeOnly
      rw [walked] at outcome
      rw [buffers_cons desc descs writeOnly]
      simp only [scatter,total,map_cons,sum_cons,extent,drop_drop]
      generalize same : some (final,(none : Option InvalidReason)) = result at outcome
      cases outcome with
      | placed next stop headed soundNext slots count mem done =>
        cases stop with
        | true =>
          cases same
          have all := done rfl
          have none : (payload frame).drop (state.bytesWritten + desc.len.toNat) = [] := by
            rw [drop_eq_nil_iff,payload_length]
            omega
          rw [none,scatter_nil,mem]
          exact ⟨rfl,by omega,soundNext⟩
        | false =>
          obtain ⟨bytes,written,soundFinal⟩ := ih next soundNext same.symm
          refine ⟨?_,?_,soundFinal⟩
          · have rest : (payload frame).drop next.bytesWritten =
                (payload frame).drop (state.bytesWritten + desc.len.toNat) := by
              rw [count]
              rcases le_total (12 + frame.length) (state.bytesWritten + desc.len.toNat) with beyond | fits
              · rw [drop_eq_nil_iff.mpr,drop_eq_nil_iff.mpr] <;>
                  simp only [payload_length] <;> omega
              · rw [min_eq_right fits]
            rw [bytes,rest,mem]
          · rw [written]
            unfold total
            omega
      | headerRefused | headerOverflow | frameRefused => cases same
      | jammed => cases same
    · simp [rxWalk,writeOnly] at walked

def Recorded (slots : List (UInt64 × Nat)) (address : Nat) : Prop :=
  ∃ slot ∈ slots, slot.1.toNat ≤ address ∧ address < slot.1.toNat + slot.2

/-- A header write that fails does not get as far as `num_buffers`, the one byte of the
header that is not zero. `start` is where in the payload a descriptor begins. -/
def TearsClean (mem : GuestMemoryMmap) : Nat → List ChainDescriptor → Prop
  | _,[] => True
  | start,desc::descs =>
    (start ≤ 10 → mem.accepts desc.addr (min (12 - start) desc.len.toNat) ∨
      start + min (min (12 - start) desc.len.toNat) (mem.torn desc.addr (min (12 - start) desc.len.toNat)) ≤ 10) ∧
    TearsClean mem (start + desc.len.toNat) descs

def Granted (state : RxWalk) : Prop := ∀ slot ∈ state.slots, state.mem.accepts slot.1 slot.2 ∧ slot.2 ≤ 12

/-- A receive walk whose writes leave the protected addresses alone, but for header places
that are recorded and bytes that are zero. -/
def Tidy (addresses : Nat → Prop) (memory : Nat → UInt8) (state : RxWalk) : Prop :=
  ∀ address, addresses address →
    state.mem.byte address = memory address ∨ state.mem.byte address = 0 ∨ Recorded state.slots address

section
variable (addresses : Nat → Prop) (memory : Nat → UInt8) (frame : List UInt8) (desc : ChainDescriptor) (state : RxWalk)

theorem slotsAfter_granted (final : RxWalk) (sound : Sound frame state) (granted : Granted state)
    (accepted : 0 < state.hdrRemaining → state.mem.accepts desc.addr (took desc state))
    (slots : final.slots = slotsAfter state desc) (same : final.mem.accepts = state.mem.accepts) : Granted final := by
  unfold Granted
  rw [slots,same]
  unfold slotsAfter
  split
  · next some' =>
    intro slot member
    rcases mem_append.mp member with old | new
    · exact granted slot old
    · rw [mem_singleton.mp new]
      have := (took_le desc state).1
      have := sound.hdr
      exact ⟨accepted some',by simp only; omega⟩
  · exact granted

theorem store_kept (tidy : Tidy addresses memory state) {bytes : List UInt8} (fits : bytes.length ≤ desc.len.toNat)
    (spared : ∀ address, desc.addr.toNat + took desc state ≤ address →
      address < desc.addr.toNat + desc.len.toNat → ¬ addresses address) (address : Nat) (held : addresses address) :
    store state.mem.byte desc.addr.toNat bytes address = memory address ∨
      store state.mem.byte desc.addr.toNat bytes address = 0 ∨ Recorded (slotsAfter state desc) address := by
  have old (recorded : Recorded state.slots address) : Recorded (slotsAfter state desc) address := by
    obtain ⟨slot,member,inside⟩ := recorded
    refine ⟨slot,?_,inside⟩
    unfold slotsAfter
    split
    · exact mem_append_left _ member
    · exact member
  rcases store_cases state.mem.byte address with same | ⟨low,high,-⟩
  · rw [same]
    rcases tidy address held with unchanged | zero | recorded
    · exact Or.inl unchanged
    · exact Or.inr (Or.inl zero)
    · exact Or.inr (Or.inr (old recorded))
  · rcases lt_or_ge address (desc.addr.toNat + took desc state) with header | rest
    · have some' : 0 < state.hdrRemaining := by
        have := (took_le desc state).1
        omega
      refine Or.inr (Or.inr ⟨(desc.addr,took desc state),?_,low,header⟩)
      rw [slotsAfter,if_pos some']
      exact mem_append_right _ (mem_singleton.mpr rfl)
    · exact absurd held (spared address rest (by omega))

theorem rxHdr_zero (index : Nat) (inside : index < 12) (other : index ≠ 10) : rxHdr[index]? = some 0 := by
  revert index
  decide

theorem torn_zero (sound : Sound frame state) (some' : 0 < state.hdrRemaining) {count : Nat}
    (clean : state.bytesWritten ≤ 10 → state.bytesWritten + min (took desc state) count ≤ 10) :
    ∀ byte ∈ (piece desc state).take count, byte = 0 := by
  intro byte member
  obtain ⟨index,bound,rfl⟩ := mem_iff_getElem.mp member
  have size := piece_length desc sound
  have hdr := sound.hdr
  have least := (took_le desc state).1
  rw [length_take] at bound
  have zero := rxHdr_zero (state.bytesWritten + index) (by omega) (by omega)
  simp only [getElem_take,piece,getElem_drop]
  rw [getElem_eq_iff]
  exact zero

end

theorem tearsClean_late (start : Nat) (descs : List ChainDescriptor) (late : 11 ≤ start) :
    TearsClean mem start descs := by
  induction descs generalizing start with
  | nil => trivial
  | cons desc descs ih => exact ⟨fun early => by omega,ih (start + desc.len.toNat) (by omega)⟩

theorem tearsClean_store (byte : Nat → UInt8) (start : Nat) (descs : List ChainDescriptor)
    (clean : TearsClean mem start descs) : TearsClean {mem with byte := byte} start descs := by
  induction descs generalizing start with
  | nil => trivial
  | cons desc descs ih => exact ⟨clean.1,ih (start + desc.len.toNat) clean.2⟩

theorem rxWalk_granted (small : frame.length ≤ maxFrameSize) (descs : List ChainDescriptor) (state final : RxWalk)
    (reason : Option InvalidReason) (sound : Sound frame state) (granted : Granted state)
    (walked : rxWalk frame frame.length descs state = some (final,reason)) : Granted final := by
  induction descs generalizing state with
  | nil =>
    cases walked
    exact granted
  | cons desc descs ih =>
    by_cases writeOnly : desc.isWriteOnly
    · have outcome := rxWalk_outcome desc descs sound small writeOnly
      rw [walked] at outcome
      generalize same : some (final,reason) = result at outcome
      cases outcome with
      | jammed => cases same
      | headerRefused _ some' refused slots mem =>
        cases same
        unfold Granted
        rw [slots,mem,writeSlice]
        split <;> exact granted
      | headerOverflow _ some' accepted room beyond slots mem =>
        cases same
        exact slotsAfter_granted frame desc state final sound granted (fun _ => accepted) slots (mem ▸ rfl)
      | frameRefused _ bytes headed more slots fits mem =>
        cases same
        exact slotsAfter_granted frame desc state final sound granted headed.accepted slots (mem ▸ rfl)
      | placed next stop headed soundNext slots count mem done =>
        have next' := slotsAfter_granted frame desc state next sound granted headed.accepted slots (mem ▸ rfl)
        cases stop with
        | true =>
          cases same
          exact next'
        | false => exact ih next soundNext next' same.symm
    · rw [rxWalk,if_pos (by simp [writeOnly])] at walked
      cases walked
      exact granted

theorem rxWalk_rejects (addresses : Nat → Prop) (memory : Nat → UInt8) (frame : List UInt8)
    (small : frame.length ≤ maxFrameSize) (descs : List ChainDescriptor) (state final : RxWalk) (reason : InvalidReason)
    (sound : Sound frame state) (tidy : Tidy addresses memory state)
    (spares : Spares addresses state.hdrRemaining (buffers descs)) (clean : TearsClean state.mem state.bytesWritten descs)
    (walked : rxWalk frame frame.length descs state = some (final,some reason)) : Tidy addresses memory final := by
  induction descs generalizing state with
  | nil => cases walked
  | cons desc descs ih =>
    by_cases writeOnly : desc.isWriteOnly
    · have outcome := rxWalk_outcome desc descs sound small writeOnly
      rw [walked] at outcome
      rw [buffers_cons desc descs writeOnly] at spares
      have spared := spares.1
      obtain ⟨here,later⟩ := clean
      have hdr := sound.hdr
      generalize same : some (final,some reason) = result at outcome
      cases outcome with
      | jammed => cases same
      | headerRefused _ some' refused slots mem =>
        cases same
        have took' : min (12 - state.bytesWritten) desc.len.toNat = took desc state := by rw [took,hdr]
        have zeros := torn_zero frame desc state sound some' (by
          intro early
          rw [took',refused] at here
          simpa using here early)
        have bytes : final.mem.byte = store state.mem.byte desc.addr.toNat
            ((piece desc state).take (state.mem.torn desc.addr (took desc state))) := by
          rw [mem,writeSlice,piece_length desc sound,if_neg (by simp [refused])]
        intro address held
        rw [slots,bytes]
        rcases store_cases state.mem.byte address
          with unchanged | ⟨-,-,placed⟩
        · rw [unchanged]
          exact tidy address held
        · exact Or.inr (Or.inl (zeros _ placed))
      | headerOverflow _ some' accepted room beyond slots mem =>
        cases same
        unfold Tidy
        rw [slots,mem]
        refine store_kept addresses memory desc state tidy ?_ spared
        rw [piece_length desc sound]
        exact (took_le desc state).2
      | frameRefused _ bytes headed more slots fits mem =>
        cases same
        have size := piece_length desc sound
        unfold Tidy
        rw [slots,mem,← size,store_store]
        refine store_kept addresses memory desc state tidy ?_ spared
        rw [length_append]
        omega
      | placed next stop headed soundNext slots count mem done =>
        cases stop with
        | true => cases same
        | false =>
          have hdr' := soundNext.hdr
          have left : next.hdrRemaining = state.hdrRemaining - desc.len.toNat := by omega
          refine ih next soundNext ?_ (left ▸ spares.2) ?_ same.symm
          · unfold Tidy
            rw [slots,mem]
            exact store_kept addresses memory desc state tidy (length_take_le _ _) spared
          · rw [mem]
            rcases le_total (12 + frame.length) (state.bytesWritten + desc.len.toNat) with beyond | under
            · exact tearsClean_late _ _ _ (by omega)
            · rw [count,min_eq_right under]
              exact tearsClean_store _ _ _ _ later
    · have same : some (state,some InvalidReason.shape) = some (final,some reason) := by
        rw [← walked,rxWalk,if_pos (by simp [writeOnly])]
      cases same
      exact tidy

theorem zeros_slice {len : Nat} (short : len ≤ 12) :
    subslice (List.replicate hdrLen 0) 0 len = some (List.replicate len 0) := by
  rw [subslice,if_pos ⟨Nat.zero_le _,by simpa [hdrLen] using short⟩,slice,drop_zero,Nat.sub_zero,
    take_replicate,hdrLen,min_eq_left short]

theorem rollBack_zeroes (slots : List (UInt64 × Nat)) (mem : GuestMemoryMmap)
    (short : ∀ slot ∈ slots, slot.2 ≤ 12) (granted : ∀ slot ∈ slots, mem.accepts slot.1 slot.2) :
    ∃ after, rollBack mem slots = some after ∧ ∀ address,
      (after.byte address = mem.byte address ∧ ¬ Recorded slots address) ∨
        (after.byte address = 0 ∧ Recorded slots address) := by
  induction slots generalizing mem with
  | nil =>
    refine ⟨mem,rfl,fun address => Or.inl ⟨rfl,?_⟩⟩
    rintro ⟨slot,member,-⟩
    simp at member
  | cons slot slots ih =>
    obtain ⟨first,shorts⟩ := forall_mem_cons.mp short
    obtain ⟨accepted,grants⟩ := forall_mem_cons.mp granted
    obtain ⟨after,rolled,effect⟩ := ih {mem with byte := store mem.byte slot.1.toNat (List.replicate slot.2 0)} shorts grants
    refine ⟨after,?_,fun address => ?_⟩
    · rw [rollBack,foldlM_cons,zeros_slice first]
      simp only [Option.bind_eq_bind,Option.bind_some,writeSlice,length_replicate,accepted]
      exact rolled
    · have split : Recorded (slot::slots) address ↔
          (slot.1.toNat ≤ address ∧ address < slot.1.toNat + slot.2) ∨ Recorded slots address := by
        simp [Recorded]
      rw [split]
      dsimp only at effect
      rcases effect address with ⟨same,free⟩ | ⟨zero,recorded⟩
      · by_cases inside : slot.1.toNat ≤ address ∧ address < slot.1.toNat + slot.2
        · refine Or.inr ⟨?_,Or.inl inside⟩
          have bound : address - slot.1.toNat < slot.2 := by omega
          rw [same,store,if_pos inside.1,getElem?_replicate,if_pos bound,Option.getD_some]
        · refine Or.inl ⟨?_,fun either => either.elim inside free⟩
          rw [same,store_outside]
          rw [length_replicate]
          omega
      · exact Or.inr ⟨zero,Or.inr recorded⟩

def Mapped (mem : GuestMemoryMmap) (desc : ChainDescriptor) : Prop :=
  desc.addr.toNat + desc.len.toNat < wordSpan ∧ ∀ offset len, offset + len ≤ desc.len.toNat →
    mem.accepts (UInt64.ofNat (desc.addr.toNat + offset)) len

def chainBytes (mem : GuestMemoryMmap) (descs : List ChainDescriptor) : List UInt8 :=
  descs.flatMap fun desc => load mem.byte desc.addr.toNat desc.len.toNat

/-- No descriptor that begins within the header is longer than the cap on descriptors. -/
def Capped : Nat → List ChainDescriptor → Prop
  | _,[] => True
  | start,desc::descs => (start < 12 → desc.len.toNat ≤ txDescMax) ∧ Capped (start + desc.len.toNat) descs

section
variable (mem : GuestMemoryMmap) (desc : ChainDescriptor) (descs : List ChainDescriptor) (state : TxWalk)

def skipped : Nat := min state.hdrRemaining (min desc.len.toNat txDescMax)

theorem skipHeader_eq :
    skipHeader state.hdrRemaining (min desc.len.toNat txDescMax) desc.addr =
      if desc.addr.toNat + skipped desc state < wordSpan then
        some (some (state.hdrRemaining - skipped desc state,min desc.len.toNat txDescMax - skipped desc state,
          ofNat (desc.addr.toNat + skipped desc state)))
      else some none := by
  unfold skipHeader
  by_cases some' : state.hdrRemaining > 0
  · rw [if_pos some']
    have sum := addrAdd_eq desc.addr (skipped desc state)
    have least : skipped desc state ≤ state.hdrRemaining := min_le_left _ _
    have least' : skipped desc state ≤ min desc.len.toNat txDescMax := min_le_right _ _
    dsimp only
    rw [show addrAdd desc.addr (min state.hdrRemaining (min desc.len.toNat txDescMax)) = _ from sum]
    by_cases fits : desc.addr.toNat + skipped desc state < wordSpan
    · rw [if_pos fits,if_pos fits]
      change ((checkedSub state.hdrRemaining (skipped desc state)).bind fun hdrRemaining =>
        (checkedSub (min desc.len.toNat txDescMax) (skipped desc state)).bind fun descLen =>
          some (some (hdrRemaining,descLen,ofNat (desc.addr.toNat + skipped desc state)))) = _
      rw [checkedSub_of_le least,checkedSub_of_le least']
      rfl
    · rw [if_neg fits,if_neg fits]
  · have zero : state.hdrRemaining = 0 := by omega
    have none : skipped desc state = 0 := by
      unfold skipped
      omega
    rw [if_neg some',none,add_zero,if_pos (show desc.addr.toNat < wordSpan from desc.addr.toNat_lt),
      UInt64.ofNat_toNat]
    rfl

theorem txWalk_eq (readable : desc.isWriteOnly = false) (full : state.totalDataBytes = state.scratch.length)
    (cap : state.totalDataBytes ≤ maxFrameSize) :
    let len := min desc.len.toNat txDescMax - skipped desc state
    let take := min len (maxFrameSize - state.totalDataBytes)
    let next := {state with hdrRemaining := state.hdrRemaining - skipped desc state}
    txWalk mem (desc::descs) state =
      if desc.addr.toNat + skipped desc state < wordSpan then
        if len = 0 then txWalk mem descs next
        else if take = 0 then some next
        else
          match mem.readSlice (ofNat (desc.addr.toNat + skipped desc state)) take with
          | none => some {next with chainInvalid := true}
          | some bytes =>
            txWalk mem descs {next with
              scratch := state.scratch ++ bytes,totalDataBytes := state.totalDataBytes + take}
      else some {state with chainInvalid := true} := by
  intro len take next
  have sum : checkedAdd state.scratch.length take = some (state.scratch.length + take) := by
    apply checkedAdd_of_fits
    have : take ≤ maxFrameSize - state.totalDataBytes := min_le_right _ _
    unfold maxFrameSize at *
    unfold wordSpan
    omega
  have sum' : checkedAdd state.totalDataBytes take = some (state.totalDataBytes + take) := full ▸ sum
  rw [txWalk,if_neg (by simp [readable]),skipHeader_eq]
  by_cases fits : desc.addr.toNat + skipped desc state < wordSpan
  · rw [if_pos fits,if_pos fits]
    change (if len = 0 then txWalk mem descs next else if take = 0 then some next else _) = _
    by_cases empty : len = 0
    · rw [if_pos empty,if_pos empty]
    · rw [if_neg empty,if_neg empty]
      by_cases done : take = 0
      · rw [if_pos done,if_pos done]
      · rw [if_neg done,if_neg done]
        rw [sum]
        rw [sum']
        rfl
  · rw [if_neg fits,if_neg fits]
    rfl

theorem txWalk_total (full : state.totalDataBytes = state.scratch.length) (cap : state.totalDataBytes ≤ maxFrameSize) :
    ∃ final, txWalk mem descs state = some final ∧ final.totalDataBytes = final.scratch.length ∧
      final.totalDataBytes ≤ maxFrameSize := by
  induction descs generalizing state with
  | nil => exact ⟨state,rfl,full,cap⟩
  | cons desc descs ih =>
    cases writeOnly : desc.isWriteOnly with
    | true =>
      refine ⟨{state with chainInvalid := true},?_,full,cap⟩
      rw [txWalk,if_pos writeOnly]
    | false =>
      rw [txWalk_eq mem desc descs state writeOnly full cap]
      split_ifs
      · exact ih _ full cap
      · exact ⟨_,rfl,full,cap⟩
      · cases read : mem.readSlice (ofNat (desc.addr.toNat + skipped desc state))
            (min (min desc.len.toNat txDescMax - skipped desc state) (maxFrameSize - state.totalDataBytes)) with
        | none => exact ⟨_,rfl,full,cap⟩
        | some bytes =>
          have size : bytes.length =
              min (min desc.len.toNat txDescMax - skipped desc state) (maxFrameSize - state.totalDataBytes) := by
            unfold readSlice at read
            split at read
            · cases read
              exact load_length _ _ _
            · cases read
          apply ih
          · simp only [length_append]
            omega
          · simp only
            omega
      · exact ⟨_,rfl,full,cap⟩

def Captured (seen : List UInt8) : Prop :=
  state.scratch = (seen.drop 12).take maxFrameSize ∧ state.hdrRemaining = 12 - seen.length ∧
    state.totalDataBytes = state.scratch.length ∧ state.chainInvalid = false

theorem captured_full {seen more : List UInt8} (captured : Captured state seen)
    (long : 12 + maxFrameSize ≤ seen.length) : Captured state (seen ++ more) := by
  obtain ⟨scratch,hdr,total,valid⟩ := captured
  refine ⟨?_,?_,total,valid⟩
  · rw [scratch,drop_append_of_le_length (by omega),take_append_of_le_length]
    rw [length_drop]
    omega
  · rw [length_append]
    omega

theorem captured_next {seen : List UInt8} (captured : Captured state seen)
    (capped : seen.length < 12 → desc.len.toNat ≤ txDescMax) :
    let bytes := load mem.byte desc.addr.toNat desc.len.toNat
    let take := min (min desc.len.toNat txDescMax - skipped desc state) (maxFrameSize - state.totalDataBytes)
    Captured
      {state with
        hdrRemaining := state.hdrRemaining - skipped desc state,
        scratch := state.scratch ++ (bytes.drop (skipped desc state)).take take,
        totalDataBytes := state.totalDataBytes + take} (seen ++ bytes) := by
  intro bytes take
  obtain ⟨scratch,hdr,total,valid⟩ := captured
  have size : bytes.length = desc.len.toNat := load_length _ _ _
  have scratchSize : state.scratch.length = min maxFrameSize (seen.length - 12) := by
    rw [scratch,length_take,length_drop]
  have same : txDescMax = maxFrameSize := rfl
  have positive : 0 < txDescMax := by decide
  have skip : skipped desc state = min (12 - seen.length) (min desc.len.toNat txDescMax) := by rw [skipped,hdr]
  refine ⟨?_,?_,?_,valid⟩
  · rw [drop_append,take_append,← scratch,length_drop]
    rcases le_total (12 - seen.length) (min desc.len.toNat txDescMax) with whole | header
    · -- the header ends in this descriptor, or has ended before it
      rw [show skipped desc state = 12 - seen.length by omega]
      rcases lt_or_ge txDescMax desc.len.toNat with long | short
      · rw [show take = maxFrameSize - (seen.length - 12) by omega]
      · rw [show maxFrameSize - (seen.length - 12) = maxFrameSize - state.totalDataBytes by omega,
          show take = min (maxFrameSize - state.totalDataBytes) (bytes.drop (12 - seen.length)).length by
            rw [length_drop]; omega,← take_eq_take_min]
    · have none : bytes.drop (skipped desc state) = [] := drop_of_length_le (by omega)
      have none' : bytes.drop (12 - seen.length) = [] := drop_of_length_le (by omega)
      rw [none,none',take_nil,take_nil]
  · simp only [length_append]
    omega
  · simp only [length_append,length_take,length_drop]
    omega

theorem txWalk_captures (seen : List UInt8) (captured : Captured state seen) (capped : Capped seen.length descs)
    (readable : ∀ desc ∈ descs, desc.isWriteOnly = false) (mapped : ∀ desc ∈ descs, Mapped mem desc) :
    ∃ final, txWalk mem descs state = some final ∧ Captured final (seen ++ chainBytes mem descs) := by
  induction descs generalizing state seen with
  | nil =>
    refine ⟨state,rfl,?_⟩
    simpa [chainBytes] using captured
  | cons desc descs ih =>
    obtain ⟨readableHere,readableLater⟩ := forall_mem_cons.mp readable
    obtain ⟨⟨fits,accepts⟩,mappedLater⟩ := forall_mem_cons.mp mapped
    obtain ⟨cappedHere,cappedLater⟩ := capped
    obtain ⟨scratch,hdr,total,valid⟩ := captured
    have next := captured_next mem desc state ⟨scratch,hdr,total,valid⟩ cappedHere
    have cap : state.totalDataBytes ≤ maxFrameSize := by
      rw [total,scratch]
      exact length_take_le _ _
    have inside : skipped desc state ≤ desc.len.toNat := by
      unfold skipped
      omega
    have size : (seen ++ load mem.byte desc.addr.toNat desc.len.toNat).length = seen.length + desc.len.toNat := by
      rw [length_append,load_length]
    have split : seen ++ chainBytes mem (desc::descs) =
        (seen ++ load mem.byte desc.addr.toNat desc.len.toNat) ++ chainBytes mem descs := by
      rw [chainBytes,append_assoc]
      rfl
    rw [txWalk_eq mem desc descs state readableHere total cap,if_pos (by omega),split]
    rw [← size] at cappedLater
    split
    · next empty =>
      refine ih _ _ ?_ cappedLater readableLater mappedLater
      simpa [empty] using next
    · next more =>
      split
      · next done =>
        refine ⟨_,rfl,captured_full _ ?_ ?_⟩
        · simpa [done] using next
        · have scratchSize : state.scratch.length = min maxFrameSize (seen.length - 12) := by
            rw [scratch,length_take,length_drop]
          have : 0 < maxFrameSize := by decide
          omega
      · have read : mem.readSlice (ofNat (desc.addr.toNat + skipped desc state))
            (min (min desc.len.toNat txDescMax - skipped desc state) (maxFrameSize - state.totalDataBytes)) =
            some (((load mem.byte desc.addr.toNat desc.len.toNat).drop (skipped desc state)).take
              (min (min desc.len.toNat txDescMax - skipped desc state) (maxFrameSize - state.totalDataBytes))) := by
          rw [readSlice,if_pos (accepts _ _ (by omega)),toNat_ofNat_of_lt' (show _ < wordSpan by omega)]
          rw [load_drop_take _ _ _ _ _ (by omega)]
        rw [read]
        exact ih _ _ next cappedLater readableLater mappedLater

end

end Ktstr.NetWalks
