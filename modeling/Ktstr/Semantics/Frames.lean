import Ktstr.Source.Bulk

/-! Legal byte streams of the bulk channel, stated without either parser: complete
frames one after another, then a proper prefix of one more. -/
namespace Ktstr.Semantics.Frames
open Source.Bulk Library.Bytes

/-- A complete frame: any sixteen header bytes, and a payload of the announced,
legal length. -/
structure Frame where
  header : List UInt8
  payload : List UInt8
  sized : header.length = frameHeaderSize
  announced : (leU32 (slice header 4 8)).toNat = payload.length
  legal : payload.length ≤ maxBulkFramePayload.toNat

def Frame.bytes (frame : Frame) : List UInt8 := frame.header ++ frame.payload

def Frame.entry (crc32 : List UInt8 → UInt32) (frame : Frame) : ShmEntry :=
  ⟨leU32 (slice frame.header 0 4),frame.payload,crc32 frame.payload == leU32 (slice frame.header 8 12)⟩

/-- A frame that has not arrived completely; the empty prefix included. -/
def Incomplete (tail : List UInt8) : Prop :=
  ∃ frame : Frame, tail <+: frame.bytes ∧ tail.length < frame.bytes.length

def stream (frames : List Frame) (tail : List UInt8) : List UInt8 := frames.flatMap Frame.bytes ++ tail

def Legal (bytes : List UInt8) : Prop := ∃ frames tail, Incomplete tail ∧ bytes = stream frames tail

end Ktstr.Semantics.Frames
