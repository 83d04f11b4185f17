import Ktstr.Library.Bytes

/-! Host side of the bulk channel: the streaming assembler of `vmm/bulk.rs` and
the one-shot parser of `vmm/host_comms.rs`, over the sixteen-byte frame header of
`vmm/wire.rs`. Buffer lengths stay below `isize::MAX`, so the source's saturating
additions on positions are plain additions here. -/
namespace Ktstr.Source.Bulk
open Library.Bytes

structure ShmMessage where
  msgType : UInt32
  length : UInt32
  crc32 : UInt32
  pad : UInt32
  deriving Repr, DecidableEq

def frameHeaderSize : Nat := 16

def maxBulkFramePayload : UInt32 := 16 * 1024 * 1024

def ShmMessage.readFromBytes (header : List UInt8) : Option ShmMessage :=
  if header.length = frameHeaderSize then
    some ⟨leU32 (slice header 0 4),leU32 (slice header 4 8),leU32 (slice header 8 12),leU32 (slice header 12 16)⟩
  else none

structure BulkMessage where
  msgType : UInt32
  payload : List UInt8
  crcOk : Bool
  deriving Repr, DecidableEq

structure ShmEntry where
  msgType : UInt32
  payload : List UInt8
  crcOk : Bool
  deriving Repr, DecidableEq

structure HostAssembler where
  buf : List UInt8 := []
  deriving Repr, DecidableEq

/-- The `while` loop of `HostAssembler::feed`: final `consumed`, messages, `resync`. -/
def feedLoop (crc32 : List UInt8 → UInt32) (buf : List UInt8) (consumed : Nat) (out : List BulkMessage) :
    Nat × List BulkMessage × Bool :=
  if consumed + frameHeaderSize ≤ buf.length then
    let hdrEnd := consumed + frameHeaderSize
    match ShmMessage.readFromBytes (slice buf consumed hdrEnd) with
    | none => (consumed,out,false)
    | some frame =>
      let payloadEnd := hdrEnd + frame.length.toNat
      if payloadEnd > buf.length then (consumed,out,false)
      else if frame.length > maxBulkFramePayload then (consumed,out,true)
      else
        let payload := slice buf hdrEnd payloadEnd
        feedLoop crc32 buf payloadEnd
          (out ++ [⟨frame.msgType,payload,crc32 payload == frame.crc32⟩])
  else (consumed,out,false)
termination_by buf.length - consumed
decreasing_by simp only [frameHeaderSize] at *; omega

def HostAssembler.feed (crc32 : List UInt8 → UInt32) (self : HostAssembler) (bytes : List UInt8) :
    HostAssembler × List BulkMessage :=
  let buf := if bytes.isEmpty then self.buf else self.buf ++ bytes
  let (consumed,out,resync) := feedLoop crc32 buf 0 []
  let buf := if resync then [] else if consumed > 0 then buf.drop consumed else buf
  -- The residual cap: twice the largest legal payload.
  let buf := if buf.length > 2 * maxBulkFramePayload.toNat then [] else buf
  (⟨buf⟩,out)

def HostAssembler.takeResidual (self : HostAssembler) : HostAssembler × List UInt8 := ({},self.buf)

/-- The `while` loop of `parse_tlv_stream`: final `pos` and the entries. -/
def parseLoop (crc32 : List UInt8 → UInt32) (buf : List UInt8) (pos : Nat) (entries : List ShmEntry) :
    Nat × List ShmEntry :=
  if pos + frameHeaderSize ≤ buf.length then
    let hdrEnd := pos + frameHeaderSize
    match ShmMessage.readFromBytes (slice buf pos hdrEnd) with
    | none => (pos,entries)
    | some msg =>
      if msg.length > maxBulkFramePayload then (pos,entries)
      else if msg.length.toNat > buf.length - hdrEnd then (pos,entries)
      else
        let payloadEnd := hdrEnd + msg.length.toNat
        let payload := slice buf hdrEnd payloadEnd
        parseLoop crc32 buf payloadEnd
          (entries ++ [⟨msg.msgType,payload,crc32 payload == msg.crc32⟩])
  else (pos,entries)
termination_by buf.length - pos
decreasing_by simp only [frameHeaderSize] at *; omega

def parseTlvStream (crc32 : List UInt8 → UInt32) (buf : List UInt8) : List ShmEntry :=
  (parseLoop crc32 buf 0 []).2

def unparsedTail (crc32 : List UInt8 → UInt32) (buf : List UInt8) : List UInt8 :=
  buf.drop (parseLoop crc32 buf 0 []).1

end Ktstr.Source.Bulk
