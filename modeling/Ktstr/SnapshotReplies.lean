import Mathlib.Data.List.Nodup
import Ktstr.Library.Framing
import Ktstr.Source.SnapshotPort

/-! Which reply a snapshot request gets. Every frame has the same size, so a reader that never loses a part of one
stays at frame boundaries, passes over the replies of calls that gave up and ends at its own. -/
namespace Ktstr.SnapshotReplies
open List Source.SnapshotPort Source.Bulk Library.Bytes Library.Framing Library.Runs SnapshotReplyPayload Nat

def frameSize : Nat := frameHeaderSize + snapshotReplyPayloadSize

section Frames
variable (crc32 : List UInt8 → UInt32) (answer : Answer)

def frameOf : List UInt8 := frameSnapshotReply crc32 answer.requestId answer.status answer.reason

def payloadOf : SnapshotReplyPayload :=
  ⟨answer.requestId,answer.status,buffered snapshotReasonMax answer.reason⟩

def headerOf : ShmMessage := ⟨msgTypeSnapshotReply,72,crc32 (payloadOf answer).asBytes,0⟩

theorem announced : (headerOf crc32 answer).length.toNat = snapshotReplyPayloadSize := rfl

@[simp] theorem length_u32Bytes (value : UInt32) : (u32Bytes value).length = 4 := by
  simp [u32Bytes]

theorem leU32_u32Bytes (value : UInt32) : leU32 (u32Bytes value) = value := by
  rw [leU32,u32Bytes,leNat_digits]
  exact UInt32.toNat_inj.mp (by simp)

@[simp] theorem length_buffered (size : Nat) (text : List UInt8) : (buffered size text).length = size := by
  simp only [buffered,length_append,length_take,length_replicate]
  omega

theorem length_payload : (payloadOf answer).asBytes.length = snapshotReplyPayloadSize := by
  simp [payloadOf,asBytes,snapshotReplyPayloadSize,← add_assoc]

theorem frame_eq : frameOf crc32 answer = headerBytes (headerOf crc32 answer) ++ (payloadOf answer).asBytes := by
  have size : UInt32.ofNat (payloadOf answer).asBytes.length = 72 := by rw [length_payload]; rfl
  rw [headerOf,← size]
  rfl

theorem length_header {header : ShmMessage} : (headerBytes header).length = frameHeaderSize := by
  simp [headerBytes,frameHeaderSize]

theorem length_frame : (frameOf crc32 answer).length = frameSize := by
  rw [frame_eq,length_append,length_header,length_payload,frameSize]

theorem read_header (header : ShmMessage) : ShmMessage.readFromBytes (headerBytes header) = some header := by
  rw [ShmMessage.readFromBytes,if_pos length_header]
  simp [headerBytes,slice,drop_append,take_of_length_le,drop_of_length_le,leU32_u32Bytes]

theorem read_payload : readFromBytes (payloadOf answer).asBytes = some (payloadOf answer) := by
  rw [readFromBytes,if_pos (length_payload answer)]
  simp [payloadOf,asBytes,slice,drop_append,take_of_length_le,leU32_u32Bytes,snapshotReplyPayloadSize]

def readingOf (got : List UInt8) : Reading := ⟨got.take frameHeaderSize,got.drop frameHeaderSize⟩

variable (got : List UInt8)

theorem unread_header (short : got.length < frameHeaderSize) :
    ShmMessage.readFromBytes (readingOf got).header = none := by
  rw [ShmMessage.readFromBytes,if_neg]
  simp only [readingOf,length_take]
  omega

variable (missing : List UInt8)

theorem whole_header (first : frameOf crc32 answer = got ++ missing) (long : frameHeaderSize ≤ got.length) :
    ShmMessage.readFromBytes (readingOf got).header = some (headerOf crc32 answer) := by
  have cut : got.take frameHeaderSize = headerBytes (headerOf crc32 answer) := by
    have same := congrArg (List.take frameHeaderSize) first
    rw [frame_eq,take_append_of_le_length long] at same
    exact same.symm
  rw [readingOf,cut,read_header]

variable {crc32 got}

theorem wanted_frame (first : frameOf crc32 answer = got ++ missing) :
    wanted (readingOf got) = if got.length < frameHeaderSize then frameHeaderSize - got.length else missing.length := by
  have size := congrArg List.length first
  rw [length_frame,length_append,frameSize] at size
  split
  · rename_i short
    rw [wanted,unread_header got short,readingOf,take_of_length_le (by omega)]
  · rename_i long
    simp only [wanted,whole_header crc32 answer got missing first (by omega),announced]
    simp only [readingOf,length_drop]
    omega

theorem filled_frame {chunk : List UInt8} (first : frameOf crc32 answer = got ++ missing)
    (fits : chunk.length ≤ wanted (readingOf got)) : filled (readingOf got) chunk = readingOf (got ++ chunk) := by
  rw [wanted_frame answer missing first] at fits
  split at fits
  · rename_i short
    simp only [filled,unread_header got short]
    rw [readingOf,readingOf,take_of_length_le (by omega),drop_of_length_le (by omega),
      take_of_length_le (by rw [length_append]; omega),
      drop_of_length_le (by rw [length_append]; omega)]
  · rename_i long
    simp only [filled,whole_header crc32 answer got missing first (by omega)]
    rw [readingOf,readingOf,take_append_of_le_length (by omega),drop_append_of_le_length (by omega)]

theorem status_part (first : frameOf crc32 answer = got ++ missing) (part : missing ≠ []) :
    frameStatus crc32 (readingOf got) = .partly := by
  have size := congrArg List.length first
  have some := length_pos_iff.mpr part
  rw [length_frame,length_append,frameSize] at size
  by_cases short : got.length < frameHeaderSize
  · simp only [frameStatus,unread_header got short]
  · have less : (readingOf got).payload.length < snapshotReplyPayloadSize := by
      simp only [readingOf,length_drop]
      omega
    simp only [frameStatus,whole_header crc32 answer got missing first (by omega),announced,gt_iff_lt,lt_irrefl,
      if_false,less,if_true]

theorem status_whole :
    frameStatus crc32 (readingOf (frameOf crc32 answer)) = .frame msgTypeSnapshotReply (payloadOf answer).asBytes := by
  have body : (readingOf (frameOf crc32 answer)).payload = (payloadOf answer).asBytes := by
    rw [readingOf,frame_eq,drop_left' length_header]
  have long : frameHeaderSize ≤ (frameOf crc32 answer).length := by rw [length_frame]; exact le_add_right _ _
  simp only [frameStatus,whole_header crc32 answer _ [] (append_nil _).symm long,announced,body,length_payload,
    gt_iff_lt,lt_irrefl,if_false]
  exact if_neg fun differs => differs rfl

theorem takeWhile_buffered (text : List UInt8) (size : Nat) (plain : 0 ∉ text.take size) :
    (buffered size text).takeWhile (· != 0) = text.take size := by
  have all : ∀ byte ∈ text.take size, (byte != 0) := by
    intro byte mem
    simpa using fun zero : byte = 0 => plain (zero ▸ mem)
  rw [buffered,takeWhile_append_of_pos all]
  cases size - (text.take size).length <;> simp [replicate_succ]

end Frames

section
variable (guest : Guest)

def framed (answers : List Answer) : List UInt8 := answers.flatMap (frameOf guest.crc32)

def replyOf (answer : Answer) : SnapshotRequestResult :=
  if answer.status = snapshotStatusOk then .ok
  else .hostError (guest.fromUtf8Lossy (answer.reason.take snapshotReasonMax))

/-- An answer with one of the two statuses, an error without a zero byte in what is sent of its reason. -/
def Plain (status : UInt32) (reason : List UInt8) : Prop :=
  status = snapshotStatusOk ∨ status = snapshotStatusErr ∧ 0 ∉ reason.take snapshotReasonMax

theorem judge_own {answer : Answer} {requestId : UInt32} (own : answer.requestId = requestId)
    (plain : Plain answer.status answer.reason) :
    judgeFrame guest.fromUtf8Lossy requestId msgTypeSnapshotReply (payloadOf answer).asBytes =
      some (replyOf guest answer) := by
  simp only [judgeFrame,ne_eq,read_payload]
  simp only [payloadOf,own,not_true,if_false,replyOf]
  rcases plain with ok | ⟨err,text⟩
  · rw [if_pos ok,if_pos ok]
  · have other : answer.status ≠ snapshotStatusOk := by rw [err]; decide
    rw [if_neg other,if_neg other,if_pos err,takeWhile_buffered answer.reason _ text]

theorem judge_other {answer : Answer} {requestId : UInt32} (other : answer.requestId ≠ requestId) :
    judgeFrame guest.fromUtf8Lossy requestId msgTypeSnapshotReply (payloadOf answer).asBytes = none := by
  simp only [judgeFrame,ne_eq,read_payload]
  exact if_pos other

structure Matched (answers : List Answer) (call : Returned) : Prop where
  ok : call.result = .ok → ∃ answer ∈ answers, answer.requestId = call.requestId ∧ answer.status = snapshotStatusOk
  error : ∀ text, call.result = .hostError text → ∃ answer ∈ answers, answer.requestId = call.requestId ∧
    answer.status = snapshotStatusErr ∧ text = guest.fromUtf8Lossy (answer.reason.take snapshotReasonMax)
  delivered : ∀ before answer after, answers = before ++ answer::after → answer.requestId = call.requestId →
    (framed guest (before ++ [answer])).length ≤ call.delivered → call.result = replyOf guest answer

/-- A waiting call whose own frame has arrived, behind all frames before it, needs no more than the reads that empty
the port. -/
def Returning (state : State) (call : Call) : Prop :=
  ∀ before answer after, state.answers = before ++ answer::after → answer.requestId = call.requestId →
    (framed guest (before ++ [answer])).length ≤ state.delivered →
    ∀ counts : List Nat, state.arrived.length ≤ counts.length →
      ∃ returned ∈ (run (step guest) state (counts.map .read)).returned,
        returned.requestId = call.requestId ∧ returned.result = replyOf guest answer

structure RepliesMatched (state : State) : Prop where
  returned : ∀ call ∈ state.returned, Matched guest state.answers call
  waiting : ∀ call, state.call = some call → Returning guest state call

/-- No answer that the guest misreads, and no deadline within a frame or with a whole frame unread. -/
def Undisturbed (state : State) : Event → Prop
  | .answer _ status reason => Plain status reason
  | .deadline _ => ∀ call ∈ state.call, call.reading = {} ∧ state.arrived.length < frameSize
  | _ => True

def gotten : Option Call → List UInt8
  | none => []
  | some call => call.reading.header ++ call.reading.payload

/-- The reader stands within the first frame of `rest`, and its call is none of those answered by `done`. -/
structure Aligned (state : State) (done rest : List Answer) : Prop where
  answers : state.answers = done ++ rest
  stream : gotten state.call ++ state.arrived ++ state.inFlight = framed guest rest
  delivered : state.delivered + state.inFlight.length = (framed guest state.answers).length
  waiting : ∀ call, state.call = some call → call.reading = readingOf (gotten state.call) ∧
    (gotten state.call).length < frameSize ∧ call.requestId ∉ done.map Answer.requestId

structure Booked (state : State) : Prop where
  aligned : ∃ done rest, Aligned guest state done rest
  plain : ∀ answer ∈ state.answers, Plain answer.status answer.reason
  distinct : (state.answers.map Answer.requestId).Nodup
  asked : ∀ answer ∈ state.answers, answer.requestId ∈ state.requests.map SnapshotRequestPayload.requestId
  numbered : ∀ id ∈ state.requests.map SnapshotRequestPayload.requestId, id.toNat < state.counter.toNat
  counted : 0 < state.counter.toNat
  matched : ∀ call ∈ state.returned, call.delivered ≤ state.delivered ∧ Matched guest state.answers call

theorem length_framed (answers : List Answer) : (framed guest answers).length = frameSize * answers.length :=
  length_stream frameSize (length_frame guest.crc32)

theorem Matched.later {answers : List Answer} {call : Returned} (matched : Matched guest answers call)
    (past : call.delivered ≤ (framed guest answers).length) (answer : Answer) :
    Matched guest (answers ++ [answer]) call where
  ok result := by
    obtain ⟨found,mem,facts⟩ := matched.ok result
    exact ⟨found,mem_append_left _ mem,facts⟩
  error text result := by
    obtain ⟨found,mem,facts⟩ := matched.error text result
    exact ⟨found,mem_append_left _ mem,facts⟩
  delivered before own after split same arrived := by
    rcases eq_nil_or_concat after with rfl | ⟨after,last,rfl⟩
    · -- The own answer is the new one, of which nothing had arrived.
      have parts := append_inj' split rfl
      rw [length_framed] at arrived past
      rw [parts.1] at past
      rw [length_append,length_singleton,mul_succ] at arrived
      have positive : 0 < frameSize := by decide
      omega
    · rw [concat_eq_append,← cons_append,← append_assoc] at split
      exact matched.delivered before own after (append_inj' split rfl).1 same arrived

variable {state : State} {done rest : List Answer}

theorem own_underway (aligned : Aligned guest state done rest) {call : Call} (waits : state.call = some call)
    (few : (gotten state.call).length + state.arrived.length < frameSize) (before after : List Answer)
    (answer : Answer) (split : state.answers = before ++ answer::after) (own : answer.requestId = call.requestId) :
    ¬ (framed guest (before ++ [answer])).length ≤ state.delivered := by
  intro arrived
  have stream := congrArg List.length aligned.stream
  have delivered := aligned.delivered
  rw [aligned.answers] at delivered split
  simp only [length_framed,length_append,length_singleton,Nat.mul_add] at stream delivered arrived
  have fewer : before.length < done.length := Nat.lt_of_mul_lt_mul_left (a := frameSize) (by omega)
  -- So the answer is one of those already read.
  have found := congrArg (fun answers => answers[before.length]?) split
  simp only [getElem?_append_left fewer,getElem?_append_right (Nat.le_refl _),Nat.sub_self,
    getElem?_cons_zero] at found
  exact (aligned.waiting call waits).2.2 (own ▸ mem_map_of_mem (mem_of_getElem? found))

theorem gotten_reading (call : Call) (got : List UInt8) :
    gotten (some { call with reading := readingOf got }) = got := by
  simp only [gotten,readingOf,take_append_drop]

theorem read_cases (aligned : Aligned guest state done rest)
    (plain : ∀ answer ∈ state.answers, Plain answer.status answer.reason) {call : Call}
    (waits : state.call = some call) (unread : state.arrived ≠ []) (count : Nat) :
    ∃ chunk left answer tail, chunk ≠ [] ∧ state.arrived = chunk ++ left ∧ rest = answer::tail ∧
      ((∃ missing, missing ≠ [] ∧ frameOf guest.crc32 answer = gotten state.call ++ chunk ++ missing ∧
          readStep guest state call count = { state with
            arrived := left, call := some { call with reading := readingOf (gotten state.call ++ chunk) } }) ∨
        frameOf guest.crc32 answer = gotten state.call ++ chunk ∧
          (answer.requestId ≠ call.requestId ∧ readStep guest state call count = { state with
              arrived := left, call := some { call with reading := {} } } ∨
          answer.requestId = call.requestId ∧
            readStep guest state call count = finish { state with arrived := left } call (replyOf guest answer))) := by
  obtain ⟨reading,short,_⟩ := aligned.waiting call waits
  have stream := aligned.stream
  rw [append_assoc] at stream
  obtain ⟨answer,tail,missing,rfl,first,unreadIs⟩ := first_frame frameSize
    (length_frame guest.crc32) stream
    (by simp [unread]) (le_of_lt short)
  have lengths := congrArg List.length first
  rw [length_frame,length_append] at lengths
  have lacks := wanted_frame answer missing first
  have room : 0 < wanted (readingOf (gotten state.call)) ∧ wanted (readingOf (gotten state.call)) ≤ missing.length := by
    rw [lacks]
    simp only [frameSize] at lengths short
    split <;> omega
  let size := min (count + 1) (wanted call.reading)
  have sizeIs : size = min (count + 1) (wanted (readingOf (gotten state.call))) := by rw [← reading]
  have parts : state.arrived.take size ++ state.arrived.drop size = state.arrived := take_append_drop _ _
  have fits : (state.arrived.take size).length ≤ wanted (readingOf (gotten state.call)) := by
    rw [length_take]
    omega
  obtain ⟨rest,restIs⟩ : state.arrived.take size <+: missing := by
    have front : state.arrived.take size <+: missing ++ tail.flatMap (frameOf guest.crc32) :=
      unreadIs ▸ (List.take_prefix _ _).trans (prefix_append _ _)
    exact prefix_of_prefix_length_le front (prefix_append _ _) (by omega)
  have extended := filled_frame answer missing first fits
  rw [← restIs,← append_assoc] at first
  refine ⟨state.arrived.take size,state.arrived.drop size,answer,tail,?_,parts.symm,rfl,?_⟩
  · have := length_pos_iff.mpr unread
    refine length_pos_iff.mp ?_
    rw [length_take]
    omega
  have readIs : readStep guest state call count = afterRead guest { state with arrived := state.arrived.drop size } call
      (readingOf (gotten state.call ++ state.arrived.take size)) := by
    rw [← extended,← reading]
    rfl
  by_cases whole : rest = []
  · right
    rw [whole,append_nil] at first
    rw [readIs,← first]
    refine ⟨rfl,?_⟩
    by_cases own : answer.requestId = call.requestId
    · have told := plain answer (aligned.answers ▸ mem_append_right _ (mem_cons_self ..))
      exact .inr ⟨own,by simp only [afterRead,status_whole,judge_own guest own told]⟩
    · exact .inl ⟨own,by simp only [afterRead,status_whole,judge_other guest own]⟩
  · exact .inl ⟨rest,whole,first,by rw [readIs,afterRead,status_part answer rest first whole]⟩

variable {guest}

theorem booked_initial : Booked guest {} where
  aligned := ⟨[],[],rfl,rfl,rfl,by simp⟩
  plain := by simp
  distinct := nodup_nil
  asked := by simp
  numbered := by simp
  counted := by decide
  matched := by simp

theorem matched_own (booked : Booked guest state) {answer : Answer} (mem : answer ∈ state.answers) :
    Matched guest state.answers ⟨answer.requestId,replyOf guest answer,state.delivered⟩ where
  ok result := by
    refine ⟨answer,mem,rfl,?_⟩
    by_contra other
    simp only [replyOf,if_neg other] at result
    cases result
  error text result := by
    have other : answer.status ≠ snapshotStatusOk := by
      intro ok
      simp only [replyOf,if_pos ok] at result
      cases result
    simp only [replyOf,if_neg other,SnapshotRequestResult.hostError.injEq] at result
    exact ⟨answer,mem,rfl,((booked.plain answer mem).resolve_left other).1,result.symm⟩
  delivered before own after split same _ := by
    have also : own ∈ state.answers := by simp [split]
    rw [inj_on_of_nodup_map booked.distinct also mem same]

theorem booked_finish (booked : Booked guest state) {arrived : List UInt8} (answers : state.answers = done ++ rest)
    (stream : arrived ++ state.inFlight = framed guest rest) {call : Call} {result : SnapshotRequestResult}
    (matched : Matched guest state.answers ⟨call.requestId,result,state.delivered⟩) :
    Booked guest (finish { state with arrived := arrived } call result) := by
  obtain ⟨_,_,aligned⟩ := booked.aligned
  refine { booked with aligned := ⟨done,rest,answers,stream,aligned.delivered,nofun⟩, matched := ?_ }
  intro entry mem
  rcases mem_append.mp mem with old | new
  · exact booked.matched entry old
  · rw [mem_singleton.mp new]
    exact ⟨le_refl _,matched⟩

variable (guest)

theorem booked_read (booked : Booked guest state) (count : Nat) :
    Booked guest (step guest state (.read count)) := by
  simp only [step]
  split
  · exact booked
  · rename_i call waits
    split
    · exact booked
    · rename_i unread
      obtain ⟨done,rest,aligned⟩ := booked.aligned
      obtain ⟨_,short,fresh⟩ := aligned.waiting call waits
      obtain ⟨chunk,left,answer,tail,_,arrived,rfl,result⟩ := read_cases guest aligned booked.plain waits
        (by simpa using unread) count
      have stream := aligned.stream
      have answers : state.answers = (done ++ [answer]) ++ tail := by simp [aligned.answers]
      rw [arrived,← append_assoc] at stream
      rcases result with ⟨missing,part,first,result⟩ | ⟨first,result⟩
      · rw [result]
        refine { booked with aligned := ⟨done,answer::tail,aligned.answers,?_,aligned.delivered,?_⟩ }
        · rw [gotten_reading,stream]
        · intro now is
          cases is
          have size := congrArg List.length first
          have := length_pos_iff.mpr part
          rw [length_frame,length_append] at size
          exact ⟨by rw [gotten_reading],by rw [gotten_reading]; omega,fresh⟩
      · -- A whole frame has been read, and the reader stands before the next.
        have boundary : left ++ state.inFlight = framed guest tail := by
          rw [← first,append_assoc] at stream
          exact append_cancel_left stream
        rcases result with ⟨other,result⟩ | ⟨own,result⟩
        · rw [result]
          refine { booked with aligned := ⟨done ++ [answer],tail,answers,boundary,aligned.delivered,?_⟩ }
          intro now is
          cases is
          exact ⟨rfl,succ_pos _,by simp [fresh,other.symm]⟩
        · rw [result]
          exact booked_finish booked answers boundary
            (own ▸ matched_own booked (by simp [answers]))

variable {guest}

theorem booked_deadline (booked : Booked guest state) {atLoop : Bool}
    (quiet : Undisturbed state (.deadline atLoop)) : Booked guest (step guest state (.deadline atLoop)) := by
  simp only [step]
  split
  · exact booked
  · rename_i call waits
    obtain ⟨done,rest,aligned⟩ := booked.aligned
    obtain ⟨boundary,few⟩ := quiet call waits
    have nothing : gotten state.call = [] := by rw [waits,gotten,boundary]; rfl
    have stream := aligned.stream
    rw [nothing] at stream
    refine booked_finish booked aligned.answers stream
      ⟨fun ok => (by cases ok),fun _ err => (by cases err),?_⟩
    intro before answer after split own arrived
    exact absurd arrived (own_underway guest aligned waits (by simpa [nothing] using few) before after answer split own)

theorem booked_deliver (booked : Booked guest state) {count : Nat} :
    Booked guest (step guest state (.deliver count)) := by
  obtain ⟨done,rest,aligned⟩ := booked.aligned
  have parts := take_append_drop count state.inFlight
  refine { booked with aligned := ⟨done,rest,aligned.answers,?_,?_,aligned.waiting⟩, matched := ?_ }
  · rw [← aligned.stream]
    simp [step]
  · have size := congrArg List.length parts
    have delivered := aligned.delivered
    rw [length_append] at size
    simp only [step]
    omega
  · intro call mem
    obtain ⟨past,matched⟩ := booked.matched call mem
    exact ⟨le_trans past (le_add_right _ _),matched⟩

theorem booked_answer (booked : Booked guest state) {requestId status : UInt32} {reason : List UInt8}
    (legal : Legal state (.answer requestId status reason)) (plain : Plain status reason) :
    Booked guest (step guest state (.answer requestId status reason)) := by
  obtain ⟨done,rest,aligned⟩ := booked.aligned
  obtain ⟨asked,fresh⟩ := legal
  refine ⟨⟨done,rest ++ [⟨requestId,status,reason⟩],?_,?_,?_,aligned.waiting⟩,?_,?_,?_,booked.numbered,booked.counted,?_⟩
  · simp [step,aligned.answers]
  · simp only [step,framed,flatMap_append]
    rw [← framed,← aligned.stream]
    simp [frameOf]
  · have delivered := aligned.delivered
    simp only [step,framed,flatMap_append,flatMap_singleton,length_append] at *
    simp only [frameOf]
    omega
  · exact forall_mem_append.mpr ⟨booked.plain,by simpa using plain⟩
  · simpa [step,nodup_append,booked.distinct] using fresh
  · exact forall_mem_append.mpr ⟨booked.asked,by simpa [step] using asked⟩
  · intro call mem
    obtain ⟨past,matched⟩ := booked.matched call mem
    have bound := aligned.delivered
    exact ⟨past,matched.later guest (by omega) _⟩

theorem booked_request (booked : Booked guest state) {kind : UInt32} {tag : List UInt8}
    (legal : Legal state (.request kind tag)) : Booked guest (step guest state (.request kind tag)) := by
  obtain ⟨idle,room⟩ := legal
  obtain ⟨done,rest,aligned⟩ := booked.aligned
  have counted := booked.counted
  have positive : state.counter ≠ 0 := by
    rintro zero
    rw [zero] at counted
    exact absurd counted (by decide)
  have next : (state.counter + 1).toNat = state.counter.toNat + 1 := by
    exact mod_eq_of_lt room
  have fresh : state.counter ∉ done.map Answer.requestId := by
    intro mem
    obtain ⟨answer,among,is⟩ := mem_map.mp mem
    have asked := booked.asked answer (aligned.answers ▸ mem_append_left _ among)
    exact absurd (booked.numbered _ asked) (by rw [is]; exact lt_irrefl _)
  have stepIs : step guest state (.request kind tag) = { state with
      counter := state.counter + 1
      requests := state.requests ++ [⟨state.counter,kind,buffered snapshotTagMax tag⟩]
      call := some { requestId := state.counter, kind := kind } } := by
    simp only [step,idle,allocate,if_neg positive]
  have stream := aligned.stream
  rw [idle] at stream
  rw [stepIs]
  refine ⟨⟨done,rest,aligned.answers,stream,aligned.delivered,?_⟩,booked.plain,booked.distinct,?_,?_,?_,booked.matched⟩
  · intro call is
    cases is
    exact ⟨rfl,succ_pos _,fresh⟩
  · intro answer mem
    rw [map_append]
    exact mem_append_left _ (booked.asked answer mem)
  · intro id mem
    rw [map_append] at mem
    rw [next]
    rcases mem_append.mp mem with old | new
    · exact lt_succ_of_lt (booked.numbered id old)
    · rw [mem_singleton.mp new]
      exact lt_succ_self _
  · rw [next]
    exact succ_pos _

theorem booked_step (state : State) (event : Event) (quiet : Legal state event ∧ Undisturbed state event)
    (booked : Booked guest state) : Booked guest (step guest state event) := by
  obtain ⟨legal,calm⟩ := quiet
  cases event with
  | request kind tag => exact booked_request booked legal
  | answer requestId status reason => exact booked_answer booked legal calm
  | deliver count => exact booked_deliver booked
  | read count => exact booked_read guest booked count
  | deadline atLoop => exact booked_deadline booked calm

variable (guest)

theorem reads_idle (state : State) (idle : state.call = none) (counts : List Nat) :
    run (step guest) state (counts.map .read) = state := by
  induction counts with
  | nil => rfl
  | cons count counts ih =>
    have same : step guest state (.read count) = state := by simp only [step,idle]
    rw [map_cons,run_cons,same,ih]

theorem returning (booked : Booked guest state) (call : Call) (waits : state.call = some call) :
    Returning guest state call := by
  intro before answer after split own arrived counts enough
  -- Each read takes at least one byte, and the own frame is among those that have arrived.
  induction counts generalizing state call with
  | nil =>
    obtain ⟨done,rest,aligned⟩ := booked.aligned
    have short := (aligned.waiting call waits).2.1
    exact absurd arrived (own_underway guest aligned waits (by simp at enough; simpa [enough] using short)
      before after answer split own)
  | cons count counts ih =>
    rw [map_cons,run_cons]
    have kept := booked_read guest booked count
    obtain ⟨done,rest,aligned⟩ := booked.aligned
    have short := (aligned.waiting call waits).2.1
    have unread : state.arrived ≠ [] := by
      intro nothing
      exact own_underway guest aligned waits (by simpa [nothing] using short) before after answer split own arrived
    have stepIs : step guest state (.read count) = readStep guest state call count := by
      simp only [step,waits]
      exact if_neg (by simpa using unread)
    obtain ⟨chunk,left,first,tail,taken,parts,rfl,result⟩ := read_cases guest aligned booked.plain waits unread count
    have shorter : left.length ≤ counts.length := by
      have := length_pos_iff.mpr taken
      rw [parts,length_append,length_cons] at enough
      omega
    rw [stepIs] at kept ⊢
    rcases result with ⟨_,_,_,result⟩ | ⟨_,⟨_,result⟩ | ⟨_,result⟩⟩
    · rw [result] at kept ⊢
      exact ih kept { call with reading := readingOf (gotten state.call ++ chunk) } rfl split own arrived shorter
    · rw [result] at kept ⊢
      exact ih kept { call with reading := {} } rfl split own arrived shorter
    · rw [result] at kept ⊢
      rw [reads_idle guest _ rfl]
      have mem : ⟨call.requestId,replyOf guest first,state.delivered⟩ ∈
          (finish { state with arrived := left } call (replyOf guest first)).returned := by simp [finish]
      exact ⟨_,mem,rfl,(kept.matched _ mem).2.delivered before answer after split own arrived⟩

theorem booked_matched (booked : Booked guest state) : RepliesMatched guest state where
  returned call mem := (booked.matched call mem).2
  waiting call waits := returning guest booked call waits

/-- In every legal run without a disturbance each call gets its own reply and no other. -/
theorem replies_reach_their_requests (events : List Event)
    (calm : Throughout (step guest) (fun state event => Legal state event ∧ Undisturbed state event) {} events) :
    RepliesMatched guest (run (step guest) {} events) := by
  have booked := run_guarded (step guest) _ (Booked guest) booked_step {} events calm booked_initial
  exact booked_matched guest booked

end

instance decidableUndisturbed (state : State) : (event : Event) → Decidable (Undisturbed state event)
  | .answer _ _ _ => inferInstanceAs (Decidable (_ ∨ _))
  | .deadline _ => inferInstanceAs (Decidable (∀ call ∈ state.call, _ ∧ _))
  | .request _ _ | .deliver _ | .read _ => isTrue trivial

def plainGuest : Guest where
  crc32 bytes := UInt32.ofNat bytes.length
  fromUtf8Lossy bytes := String.ofList (bytes.map fun byte => Char.ofNat byte.toNat)
  reopened unread := unread

/-- The first call gives up before its reply is framed; the second passes over that reply and gets its own. -/
def lateReply : List Event :=
  [.request 1 [],.deadline true,.answer 1 2 [98,117,115,121],.request 1 [],.answer 2 1 [],.deliver 20,.read 9,.read 9,
    .read 9,.deliver 156,.read 99,.read 99,.read 99]

theorem late_reply_passed_over :
    Throughout (step plainGuest) (fun state event => Legal state event ∧ Undisturbed state event) {} lateReply ∧
      RepliesMatched plainGuest (run (step plainGuest) {} lateReply) ∧
      (run (step plainGuest) {} lateReply).returned.map Returned.result = [.transportError (.undelivered 1 1),.ok] :=
  ⟨by decide +kernel,replies_reach_their_requests plainGuest lateReply (by decide +kernel),by decide +kernel⟩

/-- The first call gives up within its reply; the second takes what follows there for a header. -/
def tornReply : List Event :=
  [.request 1 [],.answer 1 1 [],.deliver 10,.read 9,.deadline false,.deliver 78,.request 1 [],.answer 2 1 [],.deliver 88,
    .read 15]

theorem torn_reply_fails_the_next : Throughout (step plainGuest) Legal {} tornReply ∧
    (run (step plainGuest) {} tornReply).answers = [⟨1,1,[]⟩,⟨2,1,[]⟩] ∧
    (run (step plainGuest) {} tornReply).returned =
      [⟨1,.transportError (.incomplete 1 1 10 16),10⟩,
        ⟨2,.transportError (.readFailed 2 (.oversized 65536)),(framed plainGuest [⟨1,1,[]⟩,⟨2,1,[]⟩]).length⟩] ∧
    ¬ RepliesMatched plainGuest (run (step plainGuest) {} tornReply) := by
  have answers : (run (step plainGuest) {} tornReply).answers = [⟨1,1,[]⟩] ++ ⟨2,1,[]⟩::[] := by decide +kernel
  have returned : (run (step plainGuest) {} tornReply).returned =
      [⟨1,.transportError (.incomplete 1 1 10 16),10⟩,
        ⟨2,.transportError (.readFailed 2 (.oversized 65536)),(framed plainGuest [⟨1,1,[]⟩,⟨2,1,[]⟩]).length⟩] := by
    decide +kernel
  refine ⟨by decide +kernel,answers,returned,fun matched => ?_⟩
  have entry := matched.returned _ (returned ▸ mem_cons_of_mem _ mem_cons_self)
  have result := entry.delivered _ _ _ answers rfl (le_refl _)
  exact absurd result nofun

end Ktstr.SnapshotReplies
