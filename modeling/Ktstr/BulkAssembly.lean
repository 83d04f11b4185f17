import Ktstr.Library.Incremental
import Ktstr.Semantics.Frames

/-! The streaming assembler and the one-shot parser both refine one incremental
frame parser, so on a legal stream neither depends on how the bytes were cut. -/
namespace Ktstr.BulkAssembly
open List Source.Bulk Semantics.Frames Library.Bytes Library.Incremental ShmMessage Frame HostAssembler

def nextFrame (crc32 : List UInt8 → UInt32) (input : List UInt8) : Option (ShmEntry × List UInt8) :=
  match ShmMessage.readFromBytes (input.take frameHeaderSize) with
  | none => none
  | some header =>
    if header.length.toNat ≤ maxBulkFramePayload.toNat ∧ frameHeaderSize + header.length.toNat ≤ input.length then
      let payload := (input.drop frameHeaderSize).take header.length.toNat
      some (⟨header.msgType,payload,crc32 payload == header.crc32⟩,
        input.drop (frameHeaderSize + header.length.toNat))
    else none

theorem read_some {bytes : List UInt8} {header : ShmMessage}
    (read : readFromBytes bytes = some header) : bytes.length = frameHeaderSize := by
  unfold readFromBytes at read
  split at read
  · assumption
  · contradiction

variable (crc32 : List UInt8 → UInt32) (input : List UInt8)

theorem nextFrame_inv {rest : List UInt8} {entry : ShmEntry} (taken : nextFrame crc32 input = some (entry,rest)) :
    ∃ header, readFromBytes (input.take frameHeaderSize) = some header ∧
      header.length.toNat ≤ maxBulkFramePayload.toNat ∧ frameHeaderSize + header.length.toNat ≤ input.length ∧
      entry = ⟨header.msgType,(input.drop frameHeaderSize).take header.length.toNat,
        crc32 ((input.drop frameHeaderSize).take header.length.toNat) == header.crc32⟩ ∧
      rest = input.drop (frameHeaderSize + header.length.toNat) := by
  unfold nextFrame at taken
  split at taken
  · contradiction
  · rename_i header read
    split at taken
    · rename_i fits
      cases taken
      exact ⟨header,read,fits.1,fits.2,rfl,rfl⟩
    · contradiction

def frameParser (crc32 : List UInt8 → UInt32) : Parser UInt8 ShmEntry where
  next := nextFrame crc32
  shrinks := by
    intro input entry rest taken
    obtain ⟨header,_,_,fits,_,rfl⟩ := nextFrame_inv crc32 input taken
    simp only [length_drop,frameHeaderSize] at *
    omega
  stable := by
    intro input entry rest more taken
    obtain ⟨header,read,legal,fits,rfl,rfl⟩ := nextFrame_inv crc32 input taken
    have whole : frameHeaderSize ≤ input.length := by omega
    have same : (input ++ more).take frameHeaderSize = input.take frameHeaderSize :=
      take_append_of_le_length whole
    have body : ((input ++ more).drop frameHeaderSize).take header.length.toNat =
        (input.drop frameHeaderSize).take header.length.toNat := by
      rw [drop_append_of_le_length whole]
      exact take_append_of_le_length (by rw [length_drop]; omega)
    have left : (input ++ more).drop (frameHeaderSize + header.length.toNat) =
        input.drop (frameHeaderSize + header.length.toNat) ++ more := drop_append_of_le_length fits
    have longer : frameHeaderSize + header.length.toNat ≤ (input ++ more).length := by
      rw [length_append]; omega
    simp only [nextFrame,same,read,legal,longer,and_self,if_true,body,left]

def toEntry (message : BulkMessage) : ShmEntry := ⟨message.msgType,message.payload,message.crcOk⟩

def Oversized (input : List UInt8) : Prop :=
  ∃ header, ShmMessage.readFromBytes (input.take frameHeaderSize) = some header ∧
    maxBulkFramePayload.toNat < header.length.toNat ∧ frameHeaderSize + header.length.toNat ≤ input.length

variable (buf : List UInt8) (pos : Nat)

variable {buf}

theorem header_slice : slice buf pos (pos + frameHeaderSize) = (buf.drop pos).take frameHeaderSize := slice_eq

theorem stuck_short (short : input.length < frameHeaderSize) : nextFrame crc32 input = none := by
  cases taken : nextFrame crc32 input with
  | none => rfl
  | some found =>
    obtain ⟨header,read,_⟩ := nextFrame_inv crc32 input taken
    omega

variable {input}

theorem nextFrame_some {header : ShmMessage} (read : readFromBytes (input.take frameHeaderSize) = some header)
    (small : header.length.toNat ≤ maxBulkFramePayload.toNat)
    (complete : frameHeaderSize + header.length.toNat ≤ input.length) : nextFrame crc32 input =
      some (⟨header.msgType,(input.drop frameHeaderSize).take header.length.toNat,
          crc32 ((input.drop frameHeaderSize).take header.length.toNat) == header.crc32⟩,
        input.drop (frameHeaderSize + header.length.toNat)) := by
  simp only [nextFrame,read,small,complete,and_self,if_true]

/-! The frame at a position of the buffer, as both loops read it. -/

variable {crc32}

theorem stuck_unread (unread : readFromBytes (slice buf pos (pos + frameHeaderSize)) = none) :
    (frameParser crc32).next (buf.drop pos) = none := by
  rw [header_slice] at unread
  simp [frameParser,nextFrame,unread]

variable {pos} {msg : ShmMessage} (read : ShmMessage.readFromBytes (slice buf pos (pos + frameHeaderSize)) = some msg)
include read

theorem stuck_big (big : maxBulkFramePayload < msg.length) : (frameParser crc32).next (buf.drop pos) = none := by
  rw [header_slice] at read
  have beyond := Nat.not_le.mpr (UInt32.lt_iff_toNat_lt.mp big)
  simp [frameParser,nextFrame,read,beyond]

theorem stuck_torn (torn : buf.length < pos + frameHeaderSize + msg.length.toNat) :
    (frameParser crc32).next (buf.drop pos) = none := by
  rw [header_slice] at read
  have long : ¬ frameHeaderSize + msg.length.toNat ≤ (buf.drop pos).length := by
    unfold frameHeaderSize at torn ⊢
    rw [length_drop]
    omega
  simp only [frameParser,nextFrame,read,long,and_false,if_false]

theorem next_at (small : ¬ maxBulkFramePayload < msg.length)
    (complete : pos + frameHeaderSize + msg.length.toNat ≤ buf.length) : nextFrame crc32 (buf.drop pos) =
      some (⟨msg.msgType,slice buf (pos + frameHeaderSize) (pos + frameHeaderSize + msg.length.toNat),
          crc32 (slice buf (pos + frameHeaderSize) (pos + frameHeaderSize + msg.length.toNat)) == msg.crc32⟩,
        buf.drop (pos + frameHeaderSize + msg.length.toNat)) := by
  rw [header_slice] at read
  have taken := nextFrame_some crc32 read (Nat.not_lt.mp (mt UInt32.lt_iff_toNat_lt.mpr small))
    (by rw [length_drop]; omega)
  rwa [drop_drop,drop_drop,← slice_eq,← Nat.add_assoc] at taken

omit read

theorem parseLoop_decode (entries : List ShmEntry) (inside : pos ≤ buf.length) :
    (parseLoop crc32 buf pos entries).2 = entries ++ (decode (frameParser crc32) (buf.drop pos)).1 ∧
      buf.drop (parseLoop crc32 buf pos entries).1 = (decode (frameParser crc32) (buf.drop pos)).2 := by
  fun_induction parseLoop crc32 buf pos entries with
  | case1 pos entries room hdrEnd unread => simp [decode_none (stuck_unread pos unread)]
  | case2 pos entries room hdrEnd msg read beyond => simp [decode_none (stuck_big read beyond)]
  | case3 pos entries room hdrEnd msg read under torn => simp [decode_none (stuck_torn read (by omega))]
  | case4 pos entries room hdrEnd msg read under fits payloadEnd payload ih =>
    obtain ⟨items,residue⟩ := ih (by omega)
    rw [items,residue,decode_some (frameParser crc32) _ _ _ (next_at read under (by omega))]
    simp [payloadEnd,hdrEnd,payload]
  | case5 pos entries short =>
    have stuck : (frameParser crc32).next (buf.drop pos) = none :=
      stuck_short crc32 _ (by rw [length_drop]; omega)
    simp [decode_none stuck]

theorem feedLoop_decode {consumed : Nat} (out : List BulkMessage) (inside : consumed ≤ buf.length) :
    (feedLoop crc32 buf consumed out).2.1.map toEntry =
        out.map toEntry ++ (decode (frameParser crc32) (buf.drop consumed)).1 ∧
      buf.drop (feedLoop crc32 buf consumed out).1 = (decode (frameParser crc32) (buf.drop consumed)).2 ∧
      ((feedLoop crc32 buf consumed out).2.2 →
        Oversized (decode (frameParser crc32) (buf.drop consumed)).2) := by
  fun_induction feedLoop crc32 buf consumed out with
  | case1 consumed out room hdrEnd unread => simp [decode_none (stuck_unread consumed unread)]
  | case2 consumed out room hdrEnd frame read payloadEnd torn => simp [decode_none (stuck_torn read torn)]
  | case3 consumed out room hdrEnd frame read payloadEnd complete beyond =>
    have oversized : Oversized (buf.drop consumed) :=
      ⟨frame,by rwa [← header_slice],UInt32.lt_iff_toNat_lt.mp beyond,by rw [length_drop]; omega⟩
    simp [decode_none (stuck_big read beyond),oversized]
  | case4 consumed out room hdrEnd frame read payloadEnd complete under payload ih =>
    obtain ⟨items,residue,resync⟩ := ih (by omega)
    rw [items,residue,decode_some (frameParser crc32) _ _ _ (next_at read under (by omega))]
    exact ⟨by simp [toEntry,payloadEnd,hdrEnd,payload],rfl,resync⟩
  | case5 consumed out short =>
    have stuck : (frameParser crc32).next (buf.drop consumed) = none :=
      stuck_short crc32 _ (by rw [length_drop]; omega)
    simp [decode_none stuck]

/-! Legal streams. -/

theorem frame_header (frame : Frame) (rest : List UInt8) :
    (frame.bytes ++ rest).take frameHeaderSize = frame.header := by
  rw [bytes,append_assoc]
  exact take_left' frame.sized

variable (crc32)

theorem next_frame (frame : Frame) (rest : List UInt8) :
    nextFrame crc32 (frame.bytes ++ rest) = some (frame.entry crc32,rest) := by
  have read : readFromBytes ((frame.bytes ++ rest).take frameHeaderSize) =
      some ⟨leU32 (slice frame.header 0 4),leU32 (slice frame.header 4 8),leU32 (slice frame.header 8 12),
        leU32 (slice frame.header 12 16)⟩ := by
    rw [frame_header,readFromBytes,if_pos frame.sized]
  have size : frame.bytes.length = frameHeaderSize + frame.payload.length := by
    simp [bytes,frame.sized]
  have taken := nextFrame_some crc32 read
    (by simpa only [frame.announced] using frame.legal)
    (by rw [length_append,frame.announced]; omega)
  have body : ((frame.bytes ++ rest).drop frameHeaderSize).take frame.payload.length = frame.payload := by
    rw [bytes,append_assoc,drop_left' frame.sized,take_left' rfl]
  have left : (frame.bytes ++ rest).drop (frameHeaderSize + frame.payload.length) = rest :=
    drop_left' size
  simpa only [frame.announced,body,left,entry] using taken

variable {tail : List UInt8}

theorem incomplete_header {frame : Frame} (before : tail <+: frame.bytes) (enough : frameHeaderSize ≤ tail.length) :
    tail.take frameHeaderSize = frame.header := by
  obtain ⟨rest,whole⟩ := before
  have same := frame_header frame []
  rw [append_nil,← whole,take_append_of_le_length enough] at same
  exact same

theorem incomplete_short (pending : Incomplete tail) {header : ShmMessage}
    (read : readFromBytes (tail.take frameHeaderSize) = some header) :
    tail.length < frameHeaderSize + header.length.toNat := by
  obtain ⟨frame,before,short⟩ := pending
  have size := read_some read
  have enough : frameHeaderSize ≤ tail.length := by
    rw [length_take] at size
    omega
  rw [incomplete_header before enough,readFromBytes,if_pos frame.sized] at read
  cases read
  simpa [bytes,frame.sized,frame.announced] using short

theorem next_incomplete (pending : Incomplete tail) : nextFrame crc32 tail = none := by
  cases taken : nextFrame crc32 tail with
  | none => rfl
  | some found =>
    obtain ⟨header,read,_,fits,_⟩ := nextFrame_inv crc32 tail taken
    have := incomplete_short pending read
    omega

theorem decode_stream {frames : List Frame} (pending : Incomplete tail) :
    decode (frameParser crc32) (stream frames tail) = (frames.map (entry crc32),tail) := by
  induction frames with
  | nil => exact decode_none (next_incomplete crc32 pending)
  | cons frame frames ih =>
    have split : stream (frame::frames) tail = frame.bytes ++ stream frames tail := by
      simp [stream]
    have taken := next_frame crc32 frame (stream frames tail)
    rw [split,decode_some (frameParser crc32) _ _ _ taken,ih]
    rfl

theorem legal_cut (whole cut : List UInt8) (legal : Legal whole) (before : cut <+: whole) : Legal cut := by
  obtain ⟨frames,tail,pending,rfl⟩ := legal
  induction frames generalizing cut with
  | nil =>
    obtain ⟨frame,inside,short⟩ := pending
    have within : cut <+: tail := by simpa [stream] using before
    exact ⟨[],cut,⟨frame,within.trans inside,by have := within.length_le; omega⟩,by simp [stream]⟩
  | cons frame frames ih =>
    have split : stream (frame::frames) tail = frame.bytes ++ stream frames tail := by
      simp [stream]
    rw [split] at before
    by_cases short : cut.length < frame.bytes.length
    · have within : cut <+: frame.bytes :=
        prefix_of_prefix_length_le before (prefix_append _ _) (by omega)
      exact ⟨[],cut,⟨frame,within,short⟩,by simp [stream]⟩
    · have covers : frame.bytes <+: cut :=
        prefix_of_prefix_length_le (prefix_append _ _) before (by omega)
      obtain ⟨rest,rfl⟩ := covers
      obtain ⟨more,left,unfinished,rfl⟩ := ih rest ((prefix_append_right_inj _).mp before)
      exact ⟨frame::more,left,unfinished,by simp [stream]⟩

theorem legal_residue {bytes : List UInt8} (legal : Legal bytes) :
    Incomplete (decode (frameParser crc32) bytes).2 := by
  obtain ⟨frames,tail,pending,rfl⟩ := legal
  rw [decode_stream crc32 pending]
  exact pending

theorem incomplete_length (pending : Incomplete tail) : tail.length ≤ 2 * maxBulkFramePayload.toNat := by
  obtain ⟨frame,_,short⟩ := pending
  have cap : maxBulkFramePayload.toNat = 16777216 := by decide
  have legal := frame.legal
  simp only [bytes,length_append,frame.sized,frameHeaderSize] at short
  omega

theorem feed_decode {self : HostAssembler} {bytes : List UInt8}
    (pending : Incomplete (decode (frameParser crc32) (self.buf ++ bytes)).2) :
    (self.feed crc32 bytes).1.buf = (decode (frameParser crc32) (self.buf ++ bytes)).2 ∧
      (self.feed crc32 bytes).2.map toEntry = (decode (frameParser crc32) (self.buf ++ bytes)).1 := by
  have joined : (if bytes.isEmpty then self.buf else self.buf ++ bytes) = self.buf ++ bytes := by
    cases bytes <;> simp
  obtain ⟨items,residue,resync⟩ := feedLoop_decode [] (Nat.zero_le _)
  simp only [drop_zero] at items residue resync
  have settled : (feedLoop crc32 (self.buf ++ bytes) 0 []).2.2 = false := by
    cases asked : (feedLoop crc32 (self.buf ++ bytes) 0 []).2.2 with
    | false => rfl
    | true =>
      obtain ⟨header,read,_,complete⟩ := resync asked
      have := incomplete_short pending read
      omega
  have dropped : (if (feedLoop crc32 (self.buf ++ bytes) 0 []).1 > 0 then
      (self.buf ++ bytes).drop (feedLoop crc32 (self.buf ++ bytes) 0 []).1 else self.buf ++ bytes) =
      (decode (frameParser crc32) (self.buf ++ bytes)).2 := by
    rw [← residue]
    split
    · rfl
    · rename_i still
      rw [Nat.eq_zero_of_not_pos still,drop_zero]
  have bounded : ¬ (decode (frameParser crc32) (self.buf ++ bytes)).2.length > 2 * maxBulkFramePayload.toNat := by
    have := incomplete_length pending
    omega
  constructor
  · simp only [feed,joined,settled,Bool.false_eq_true,if_false,dropped,bounded]
  · simp only [feed,joined]
    simpa using items

/-- Feeding a list of chunks in order: the assembler and every message returned. -/
def feedAll (crc32 : List UInt8 → UInt32) (self : HostAssembler) :
    List (List UInt8) → HostAssembler × List BulkMessage
  | [] => (self,[])
  | chunk::chunks =>
    let (next,messages) := self.feed crc32 chunk
    let (final,more) := feedAll crc32 next chunks
    (final,messages ++ more)

theorem feedAll_decode {chunks : List (List UInt8)} (self : HostAssembler) (seen : List UInt8)
    (state : (decode (frameParser crc32) seen).2 = self.buf) (legal : Legal (seen ++ chunks.flatten)) :
    (feedAll crc32 self chunks).1.buf = (decode (frameParser crc32) (seen ++ chunks.flatten)).2 ∧
      (decode (frameParser crc32) seen).1 ++ (feedAll crc32 self chunks).2.map toEntry =
        (decode (frameParser crc32) (seen ++ chunks.flatten)).1 := by
  induction chunks generalizing self seen with
  | nil => simp [feedAll,state]
  | cons chunk chunks ih =>
    have resumed := decode_append (frameParser crc32) seen chunk
    rw [state] at resumed
    have cut : Legal (seen ++ chunk) :=
      legal_cut _ _ legal ⟨chunks.flatten,by simp⟩
    have pending : Incomplete (decode (frameParser crc32) (self.buf ++ chunk)).2 := by
      have := legal_residue crc32 cut
      rwa [resumed] at this
    obtain ⟨buffered,messages⟩ := feed_decode crc32 pending
    obtain ⟨final,items⟩ := ih (self.feed crc32 chunk).1 (seen ++ chunk)
      (by rw [resumed,buffered]) (by simpa using legal)
    refine ⟨by simpa [feedAll] using final,?_⟩
    rw [resumed] at items
    simpa [feedAll,messages] using items

variable (buf)

theorem parse_decode : parseTlvStream crc32 buf = (decode (frameParser crc32) buf).1 ∧
      unparsedTail crc32 buf = (decode (frameParser crc32) buf).2 := by
  simpa [parseTlvStream,unparsedTail] using parseLoop_decode [] (Nat.zero_le _)

/-- Every chunking of every legal stream: the assembler returns the entries of the
one-shot parser and holds exactly its unparsed tail, and handing the residue back
after any number of chunks loses and duplicates nothing. -/
theorem chunked_feed_eq_parse (crc32 : List UInt8 → UInt32) (frames : List Frame) (tail : List UInt8)
    (pending : Incomplete tail) (chunks : List (List UInt8)) (cut : chunks.flatten = stream frames tail) :
    (feedAll crc32 {} chunks).2.map toEntry = parseTlvStream crc32 (stream frames tail) ∧
      (feedAll crc32 {} chunks).1.takeResidual.2 = unparsedTail crc32 (stream frames tail) ∧
      unparsedTail crc32 (stream frames tail) = tail ∧
      parseTlvStream crc32 (stream frames tail) = frames.map (Frame.entry crc32) ∧
      ∀ j, (feedAll crc32 {} (chunks.take j)).2.map toEntry ++
          parseTlvStream crc32 ((feedAll crc32 {} (chunks.take j)).1.takeResidual.2 ++ (chunks.drop j).flatten) =
        parseTlvStream crc32 (stream frames tail) := by
  have legal : Legal chunks.flatten := ⟨frames,tail,pending,cut⟩
  have parsed := parse_decode crc32 (stream frames tail)
  have start : (decode (frameParser crc32) []).2 = ({} : HostAssembler).buf := by
    rw [decode_none (stuck_short crc32 [] (by decide))]
  have blank : (decode (frameParser crc32) []).1 = [] := by
    rw [decode_none (stuck_short crc32 [] (by decide))]
  have whole := feedAll_decode crc32 {} [] start (by simpa using legal)
  rw [blank,cut] at whole
  refine ⟨whole.2.trans parsed.1.symm,whole.1.trans parsed.2.symm,?_,?_,?_⟩
  · rw [parsed.2,decode_stream crc32 pending]
  · rw [parsed.1,decode_stream crc32 pending]
  · intro j
    have joined : (chunks.take j).flatten ++ (chunks.drop j).flatten = chunks.flatten := by
      rw [← flatten_append,take_append_drop]
    have early : Legal (chunks.take j).flatten := legal_cut _ _ legal ⟨_,joined⟩
    have fed := feedAll_decode crc32 {} [] start (by simpa using early)
    rw [blank,nil_append,nil_append] at fed
    have resumed := decode_append (frameParser crc32) (chunks.take j).flatten (chunks.drop j).flatten
    rw [joined,cut] at resumed
    rw [parsed.1,resumed,fed.2,(parse_decode crc32 _).1,takeResidual,fed.1]

def emptyFrame : Frame := ⟨[1,0,0,0,0,0,0,0,0,0,0,0,0,0,0,0],[],rfl,by decide,by decide⟩

theorem emptyFrame_start : Incomplete [1] := ⟨emptyFrame,⟨emptyFrame.header.tail,rfl⟩,by decide⟩

theorem chunked_feed_empty_payload :
    [[1,0,0],[0,0,0,0,0,0,0,0,0,0],[0,0,0,1]].flatten = stream [emptyFrame] [1] ∧
      (feedAll (fun _ => 0) {} [[1,0,0],[0,0,0,0,0,0,0,0,0,0],[0,0,0,1]]).2.map toEntry = [⟨1,[],true⟩] := by
  have fed := chunked_feed_eq_parse (fun _ => 0) [emptyFrame] [1] emptyFrame_start
    [[1,0,0],[0,0,0,0,0,0,0,0,0,0],[0,0,0,1]] rfl
  exact ⟨rfl,fed.1.trans (fed.2.2.2.1.trans (by decide))⟩

end Ktstr.BulkAssembly
