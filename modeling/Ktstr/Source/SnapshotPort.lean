import Ktstr.Library.Runs
import Ktstr.Source.Bulk

/-! Snapshot requests of a guest and their replies on the bulk port: `request_snapshot`,
`read_bulk_port_frame` and `bounded_read_exact` of `vmm/guest_comms.rs` against the frames of
`frame_snapshot_reply` in `vmm/freeze_coord/snapshot.rs`. The machine takes one step for each call,
each answer of the host, each arrival of bytes, each `read` that returns and each deadline. The port is open and no
call on it fails. -/
namespace Ktstr.Source.SnapshotPort
open Library.Bytes Library.Runs Bulk

def msgTypeSnapshotReply : UInt32 := 0x534e5250

def snapshotTagMax : Nat := 64

def snapshotReasonMax : Nat := 64

def snapshotStatusOk : UInt32 := 1

def snapshotStatusErr : UInt32 := 2

def u32Bytes (value : UInt32) : List UInt8 := (List.range 4).map fun i => UInt8.ofNat (value.toNat / 256 ^ i)

def buffered (size : Nat) (text : List UInt8) : List UInt8 :=
  text.take size ++ List.replicate (size - (text.take size).length) 0

structure SnapshotReplyPayload where
  requestId : UInt32
  status : UInt32
  reason : List UInt8

def snapshotReplyPayloadSize : Nat := 8 + snapshotReasonMax

def SnapshotReplyPayload.asBytes (self : SnapshotReplyPayload) : List UInt8 :=
  u32Bytes self.requestId ++ u32Bytes self.status ++ self.reason

def SnapshotReplyPayload.readFromBytes (bytes : List UInt8) : Option SnapshotReplyPayload :=
  if bytes.length = snapshotReplyPayloadSize then
    some ⟨leU32 (slice bytes 0 4),leU32 (slice bytes 4 8),slice bytes 8 snapshotReplyPayloadSize⟩
  else none

def headerBytes (header : ShmMessage) : List UInt8 :=
  u32Bytes header.msgType ++ u32Bytes header.length ++ u32Bytes header.crc32 ++ u32Bytes header.pad

def frameSnapshotReply (crc32 : List UInt8 → UInt32) (requestId status : UInt32) (reason : List UInt8) : List UInt8 :=
  let payload : SnapshotReplyPayload := ⟨requestId,status,buffered snapshotReasonMax reason⟩
  let header : ShmMessage :=
    ⟨msgTypeSnapshotReply,UInt32.ofNat payload.asBytes.length,crc32 payload.asBytes,0⟩
  headerBytes header ++ payload.asBytes

structure SnapshotRequestPayload where
  requestId : UInt32
  kind : UInt32
  tag : List UInt8

/-- Why a frame could not be read, with the numbers of the message. -/
inductive InvalidData
  | oversized (length : Nat)
  | crcMismatch (header computed : UInt32) (length : Nat)
deriving DecidableEq

inductive TransportFault
  | undelivered (requestId kind : UInt32)
  | incomplete (requestId kind : UInt32) (filled wanted : Nat)
  | readFailed (requestId : UInt32) (cause : InvalidData)
  | unknownStatus (status : UInt32)
deriving DecidableEq

inductive SnapshotRequestResult
  | ok
  | hostError (reason : String)
  | transportError (fault : TransportFault)
deriving DecidableEq

structure Reading where
  header : List UInt8 := []
  payload : List UInt8 := []
deriving DecidableEq

structure Call where
  requestId : UInt32
  kind : UInt32
  reading : Reading := {}

structure Answer where
  requestId : UInt32
  status : UInt32
  reason : List UInt8
deriving DecidableEq

structure Returned where
  requestId : UInt32
  result : SnapshotRequestResult
  delivered : Nat
deriving DecidableEq

structure State where
  counter : UInt32 := 1
  requests : List SnapshotRequestPayload := []
  answers : List Answer := []
  inFlight : List UInt8 := []
  arrived : List UInt8 := []
  delivered : Nat := 0
  call : Option Call := none
  returned : List Returned := []

inductive Event
  | request (kind : UInt32) (tag : List UInt8)
  | answer (requestId status : UInt32) (reason : List UInt8)
  | deliver (count : Nat)
  | read (count : Nat)
  | deadline (atLoop : Bool)

/-- What the guest takes from outside: the checksum, the decoding of text, and what is left of the unread bytes when
the port is closed and opened again. -/
structure Guest where
  crc32 : List UInt8 → UInt32
  fromUtf8Lossy : List UInt8 → String
  reopened : List UInt8 → List UInt8

def allocate (counter : UInt32) : UInt32 × UInt32 :=
  if counter = 0 then (counter + 1,counter + 2) else (counter,counter + 1)

def wanted (reading : Reading) : Nat :=
  match ShmMessage.readFromBytes reading.header with
  | some msg => msg.length.toNat - reading.payload.length
  | none => frameHeaderSize - reading.header.length

def filled (reading : Reading) (chunk : List UInt8) : Reading :=
  match ShmMessage.readFromBytes reading.header with
  | some _ => { reading with payload := reading.payload ++ chunk }
  | none => { reading with header := reading.header ++ chunk }

inductive FrameStatus
  | partly
  | frame (msgType : UInt32) (payload : List UInt8)
  | invalid (cause : InvalidData)

def frameStatus (crc32 : List UInt8 → UInt32) (reading : Reading) : FrameStatus :=
  match ShmMessage.readFromBytes reading.header with
  | none => .partly
  | some msg =>
    let length := msg.length.toNat
    if length > snapshotReplyPayloadSize then .invalid (.oversized length)
    else if reading.payload.length < length then .partly
    else
      let computed := crc32 reading.payload
      if computed ≠ msg.crc32 then .invalid (.crcMismatch msg.crc32 computed length)
      else .frame msg.msgType reading.payload

def judgeFrame (fromUtf8Lossy : List UInt8 → String) (requestId msgType : UInt32) (payload : List UInt8) :
    Option SnapshotRequestResult :=
  if msgType ≠ msgTypeSnapshotReply then none
  else
    match SnapshotReplyPayload.readFromBytes payload with
    | none => none
    | some reply =>
      if reply.requestId ≠ requestId then none
      else if reply.status = snapshotStatusOk then some .ok
      else if reply.status = snapshotStatusErr then
        some (.hostError (fromUtf8Lossy (reply.reason.takeWhile (· != 0))))
      else some (.transportError (.unknownStatus reply.status))

section
variable (guest : Guest)

variable (state : State) (call : Call)

def finish (result : SnapshotRequestResult) : State :=
  { state with call := none, returned := state.returned ++ [⟨call.requestId,result,state.delivered⟩] }

def afterRead (reading : Reading) : State :=
  match frameStatus guest.crc32 reading with
  | .partly => { state with call := some { call with reading := reading } }
  | .invalid cause =>
    -- The handle is dropped, and the next call opens the port again.
    finish { state with arrived := guest.reopened state.arrived } call
      (.transportError (.readFailed call.requestId cause))
  | .frame msgType payload =>
    match judgeFrame guest.fromUtf8Lossy call.requestId msgType payload with
    | none => { state with call := some { call with reading := {} } }
    | some result => finish state call result

def readStep (count : Nat) : State :=
  let size := min (count + 1) (wanted call.reading)
  afterRead guest { state with arrived := state.arrived.drop size } call
    (filled call.reading (state.arrived.take size))

/-- The deadline is checked before each frame and before each `read` of one. -/
def expired (atLoop : Bool) : TransportFault :=
  if call.reading.header.isEmpty && atLoop then .undelivered call.requestId call.kind
  else
    let got := if call.reading.header.length < frameHeaderSize then call.reading.header.length
      else call.reading.payload.length
    .incomplete call.requestId call.kind got (got + wanted call.reading)

def step : Event → State
  | .request kind tag =>
    match state.call with
    | some _ => state
    | none =>
      let (requestId,counter) := allocate state.counter
      { state with
        counter := counter
        requests := state.requests ++ [⟨requestId,kind,buffered snapshotTagMax tag⟩]
        call := some { requestId := requestId, kind := kind } }
  | .answer requestId status reason =>
    { state with
      answers := state.answers ++ [⟨requestId,status,reason⟩]
      inFlight := state.inFlight ++ frameSnapshotReply guest.crc32 requestId status reason }
  | .deliver count =>
    { state with
      inFlight := state.inFlight.drop count
      arrived := state.arrived ++ state.inFlight.take count
      delivered := state.delivered + (state.inFlight.take count).length }
  | .read count =>
    match state.call with
    | none => state
    | some call => if state.arrived.isEmpty then state else readStep guest state call count
  | .deadline atLoop =>
    match state.call with
    | none => state
    -- The bytes of a frame read in part are gone with the call.
    | some call => finish state call (.transportError (expired call atLoop))

end

/-- Calls one at a time and without a wrap of the ids, and at most one answer to each request. -/
def Legal (state : State) : Event → Prop
  | .request _ _ => state.call = none ∧ state.counter.toNat + 1 < 2 ^ 32
  | .answer requestId _ _ => requestId ∈ state.requests.map SnapshotRequestPayload.requestId ∧
      requestId ∉ state.answers.map Answer.requestId
  | _ => True

instance decidableLegal (state : State) : (event : Event) → Decidable (Legal state event)
  | .request _ _ => inferInstanceAs (Decidable (_ ∧ _))
  | .answer _ _ _ => inferInstanceAs (Decidable (_ ∧ _))
  | .deliver _ | .read _ | .deadline _ => isTrue trivial

end Ktstr.Source.SnapshotPort
