import Ktstr.Library.Fallible
import Ktstr.Source.BlkRead

/-! The two read handlers side by side. The vectored one places the file's bytes and then zeros; the other one writes its
buffer segment by segment, with whatever an earlier segment left in it past the end of the file. -/
namespace Ktstr.ReadHandlers
open List Library.Fallible Library.Scatter Source.VmMemory Source.BlkRead Nat
open Source.BlkRequest hiding zeroChunks zeroFill handleReadVectoredImpl
open Source.Drain (dataLen)

/-- The byte at a position of a file that is read as if zeros followed it. -/
def fileByte (backing : List UInt8) (position : Nat) : UInt8 := (backing[position]?).getD 0

/-- Documented behaviour of guest memory: an accepted range ends below the top of the address space, its parts are accepted,
and its slices follow each other. -/
structure Regions (accepts : UInt64 → Nat → Bool) (getSlices : UInt64 → Nat → List (Option Nat)) : Prop where
  below : ∀ addr len, accepts addr len = true → addr.toNat + len < 2 ^ 64
  within : ∀ addr len offset count, accepts addr len = true → offset + count ≤ len → 0 < count →
    accepts (addr + UInt64.ofNat offset) count = true
  slices : ∀ addr len, accepts addr len = true → 0 < len →
    ∃ lens : List Nat, getSlices addr len = lens.map some ∧ lens.sum = len

theorem writeSlice_accepted (mem : GuestMemoryMmap) (bytes : List UInt8) (addr : UInt64)
    (accepted : mem.accepts addr bytes.length) :
    mem.writeSlice bytes addr = ({mem with byte := store mem.byte addr.toNat bytes},true) := by
  rw [GuestMemoryMmap.writeSlice,if_pos accepted]

theorem toNat_add_ofNat (addr : UInt64) (offset : Nat) (fits : addr.toNat + offset < 2 ^ 64) :
    (addr + UInt64.ofNat offset).toNat = addr.toNat + offset := by
  rw [UInt64.toNat_add,UInt64.toNat_ofNat',add_mod_mod,mod_eq_of_lt fits]

section
variable (getSlices : UInt64 → Nat → List (Option Nat))

theorem zeroChunks_eq (mem : GuestMemoryMmap) (addr : UInt64) (remaining : Nat)
    (regions : Regions mem.accepts getSlices) (accepted : remaining = 0 ∨ mem.accepts addr remaining) :
    zeroChunks mem addr remaining = ({mem with byte := store mem.byte addr.toNat (replicate remaining 0)},true) := by
  induction remaining using Nat.strong_induction_on generalizing mem addr with
  | h remaining ih =>
    rw [zeroChunks]
    split
    · next none => rw [none,replicate_zero,store_nil]
    next some =>
    have whole := accepted.resolve_left some
    have top := regions.below addr remaining whole
    have chunkLe : min remaining zeroBufLen ≤ remaining := min_le_left _ _
    have chunkPos : 0 < min remaining zeroBufLen := by
      rw [zeroBufLen]
      omega
    generalize min remaining zeroBufLen = chunk at *
    have first : mem.accepts addr (replicate chunk (0 : UInt8)).length := by
      have part := regions.within addr remaining 0 chunk whole (by omega) chunkPos
      simpa using part
    have fits : addr.toNat + chunk < 2 ^ 64 := by omega
    have rest : remaining - chunk = 0 ∨ mem.accepts (addr + UInt64.ofNat chunk) (remaining - chunk) := by
      rcases Nat.eq_zero_or_pos (remaining - chunk) with done | more
      · exact Or.inl done
      · exact Or.inr (regions.within addr remaining chunk _ whole (by omega) more)
    dsimp only
    rw [writeSlice_accepted mem _ addr first]
    dsimp only
    rw [if_pos fits,ih (remaining - chunk) (by omega) {mem with byte := store mem.byte addr.toNat (replicate chunk 0)}
      (addr + UInt64.ofNat chunk) regions rest]
    have joined := store_store mem.byte addr.toNat (replicate chunk (0 : UInt8)) (replicate (remaining - chunk) 0)
    rw [length_replicate,replicate_append_replicate,Nat.add_sub_cancel' chunkLe] at joined
    rw [toNat_add_ofNat addr chunk fits]
    rw [joined]

theorem zeroFill_eq (mem : GuestMemoryMmap) (segs : List ChainDescriptor) (bytes : List UInt8)
    (regions : Regions mem.accepts getSlices) (accepted : ∀ seg ∈ segs, mem.accepts seg.addr seg.len.toNat)
    (room : bytes.length ≤ dataLen segs) :
    zeroFill {mem with byte := scatter mem.byte (segs.map extent) bytes} segs bytes.length (dataLen segs - bytes.length) =
      ({mem with
        byte := scatter mem.byte (segs.map extent) (bytes ++ replicate (dataLen segs - bytes.length) 0)},true) := by
  induction segs generalizing mem bytes with
  | nil =>
    rfl
  | cons seg segs ih =>
    obtain ⟨here,rest⟩ := forall_mem_cons.mp accepted
    have size : dataLen (seg::segs) = seg.len.toNat + dataLen segs := by simp [dataLen]
    rw [zeroFill,size]
    split
    · next done => rw [done,replicate_zero,append_nil]
    next more =>
    split
    · next filled =>
      -- The segment was filled from the file; the rest of the walk is about the bytes behind it.
      have step := ih {mem with byte := store mem.byte seg.addr.toNat (bytes.take seg.len.toNat)} (bytes.drop seg.len.toNat)
        regions rest (by rw [length_drop]; omega)
      rw [length_drop] at step
      have left : dataLen segs - (bytes.length - seg.len.toNat) = seg.len.toNat + dataLen segs - bytes.length := by omega
      rw [left] at step
      rw [map_cons,scatter,scatter,extent]
      rw [take_append_of_le_length filled,drop_append_of_le_length filled]
      exact step
    · next short =>
      have short : bytes.length < seg.len.toNat := by omega
      have part : min (seg.len.toNat - bytes.length) (seg.len.toNat + dataLen segs - bytes.length) =
          seg.len.toNat - bytes.length := by omega
      have top := regions.below _ _ here
      have fits : seg.addr.toNat + bytes.length < 2 ^ 64 := by omega
      have tail := regions.within seg.addr seg.len.toNat bytes.length (seg.len.toNat - bytes.length) here (by omega) (by omega)
      have placed : scatter mem.byte ((seg::segs).map extent) bytes = store mem.byte seg.addr.toNat bytes := by
        rw [map_cons,scatter,extent]
        rw [take_of_length_le (le_of_lt short),drop_eq_nil_of_le (le_of_lt short),scatter_nil]
      rw [if_pos fits,part,placed,
        zeroChunks_eq getSlices {mem with byte := store mem.byte seg.addr.toNat bytes} _ _ regions (Or.inr tail)]
      have step := ih
        {mem with byte := store mem.byte seg.addr.toNat (bytes ++ replicate (seg.len.toNat - bytes.length) 0)}
        [] regions rest (zero_le _)
      rw [scatter_nil,length_nil,Nat.sub_zero,nil_append] at step
      have left : seg.len.toNat + dataLen segs - bytes.length - (seg.len.toNat - bytes.length) = dataLen segs := by omega
      rw [toNat_add_ofNat _ _ fits,store_store,left]
      refine step.trans ?_
      have zeros : replicate (seg.len.toNat + dataLen segs - bytes.length) (0 : UInt8) =
          replicate (seg.len.toNat - bytes.length) 0 ++ replicate (dataLen segs) 0 := by
        rw [replicate_append_replicate]
        congr 1
        omega
      have full : (bytes ++ replicate (seg.len.toNat - bytes.length) (0 : UInt8)).length = seg.len.toNat := by
        rw [length_append,length_replicate]
        omega
      rw [map_cons,scatter,zeros,← append_assoc,extent]
      rw [take_left' full,drop_left' full]

theorem iovecRanges_eq {accepts : UInt64 → Nat → Bool} {segs : List ChainDescriptor} (regions : Regions accepts getSlices)
    (accepted : ∀ seg ∈ segs, accepts seg.addr seg.len.toNat) (directed : ∀ seg ∈ segs, seg.isWriteOnly) :
    ∃ iovecs, iovecRanges getSlices segs = some iovecs ∧ total iovecs = dataLen segs ∧
      ∀ (memory : Nat → UInt8) (values : List UInt8), scatter memory iovecs values = scatter memory (segs.map extent) values := by
  induction segs with
  | nil => exact ⟨[],rfl,rfl,fun _ _ => rfl⟩
  | cons seg segs ih =>
    obtain ⟨here,rest⟩ := forall_mem_cons.mp accepted
    obtain ⟨out,others⟩ := forall_mem_cons.mp directed
    obtain ⟨iovecs,found,size,same⟩ := ih rest others
    rw [iovecRanges,out]
    by_cases empty : seg.len = 0
    · refine ⟨iovecs,?_,?_,?_⟩
      · rw [if_neg (by simp),if_pos empty,found]
      · rw [size]
        simp [dataLen,empty]
      · intro memory values
        rw [same,map_cons,scatter,extent,empty]
        simp
    · have some : 0 < seg.len.toNat := by
        rw [Nat.pos_iff_ne_zero]
        exact fun zero => empty (UInt32.toNat.inj zero)
      obtain ⟨lens,slices,sum⟩ := regions.slices seg.addr seg.len.toNat here some
      have gathered : (getSlices seg.addr seg.len.toNat).mapM id = .some lens := by
        rw [slices,mapM_eq_some,map_id]
      refine ⟨tiles seg.addr.toNat lens ++ iovecs,?_,?_,?_⟩
      · rw [if_neg (by simp),if_neg empty,gathered,found]
      · have tiled := total_tiles seg.addr.toNat lens
        simp only [total] at size tiled
        simp only [total,map_append,sum_append,size,tiled,sum]
        simp [dataLen]
      · intro memory values
        rw [scatter_tiles,scatter,same,sum,map_cons,scatter,extent]

theorem load_fileByte (backing : List UInt8) (offset len : Nat) :
    load (fileByte backing) offset len =
      readAt backing offset len ++ replicate (len - (readAt backing offset len).length) 0 := by
  have size : (readAt backing offset len).length = min len (backing.length - offset) := by
    rw [readAt,length_take,length_drop]
  apply ext_getElem
  · rw [load_length,length_append,length_replicate]
    omega
  · intro index left right
    rw [load_length] at left
    by_cases held : index < (readAt backing offset len).length
    · rw [getElem_append_left held]
      have inFile : offset + index < backing.length := by omega
      simp [load,fileByte,readAt,getElem?_eq_getElem inFile]
    · rw [getElem_append_right (Nat.le_of_not_lt held)]
      have past : backing.length ≤ offset + index := by omega
      simp [load,fileByte,getElem?_eq_none past]

theorem vectored_fills (backing : List UInt8) (capacityBytes sector : UInt64) (counters : Counters) (mem : GuestMemoryMmap)
    (segs : List ChainDescriptor) (regions : Regions mem.accepts getSlices)
    (accepted : ∀ seg ∈ segs, mem.accepts seg.addr seg.len.toNat) (directed : ∀ seg ∈ segs, seg.isWriteOnly)
    (inside : outOfRange capacityBytes.toNat sector.toNat (dataLen segs) = false) :
    handleReadVectoredImpl getSlices backing capacityBytes counters mem sector segs (dataLen segs) =
      ⟨{mem with byte :=
          scatter mem.byte (segs.map extent) (load (fileByte backing) (sector.toNat * sectorSize) (dataLen segs))},
        counters.record (.recordRead (readAt backing (sector.toNat * sectorSize) (dataLen segs)).length),sOk,
        UInt32.ofNat (dataLen segs) + 1⟩ := by
  obtain ⟨iovecs,found,size,same⟩ := iovecRanges_eq getSlices regions accepted directed
  rw [handleReadVectoredImpl,if_neg (by rw [inside]; simp),found]
  dsimp only
  have read : (if iovecs.isEmpty then (mem,0) else preadv mem backing iovecs (sector.toNat * sectorSize)) =
      ({mem with byte := scatter mem.byte (segs.map extent) (readAt backing (sector.toNat * sectorSize) (dataLen segs))},
        (readAt backing (sector.toNat * sectorSize) (dataLen segs)).length) := by
    split
    · next none =>
      rw [isEmpty_iff.mp none] at size
      rw [← size]
      simp [readAt,total]
    · rw [preadv,size,same]
  have short : (readAt backing (sector.toNat * sectorSize) (dataLen segs)).length ≤ dataLen segs := by
    exact length_take_le _ _
  rw [read,load_fileByte]
  generalize readAt backing (sector.toNat * sectorSize) (dataLen segs) = bytes at *
  split
  · rw [zeroFill_eq getSlices mem segs bytes regions accepted short]
    rfl
  · next full =>
    rw [Nat.sub_eq_zero_of_le (Nat.le_of_not_lt full),replicate_zero,append_nil]
    rfl

end

/-- The byte an offset of the buffer holds before a segment is read: what the file gave it for the nearest earlier segment
that reached it, unless a shorter segment came after. Earlier segments, nearest first, as position in the file and length. -/
def leftover (backing initial : List UInt8) : List (Nat × Nat) → Nat → UInt8
  | [],index => (initial[index]?).getD 0
  | (offset,len)::earlier,index =>
    if len ≤ index then 0 else (backing[offset + index]?).getD (leftover backing initial earlier index)

/-- Wherever a segment lies past the end of the file and no later one covers it, nothing is left over but zeros. -/
def Clean (backing initial : List UInt8) (earlier : List (Nat × Nat)) (offset : Nat) : List ChainDescriptor → Prop
  | [] => True
  | seg::segs =>
    (∀ index < seg.len.toNat, backing.length ≤ offset + index → ¬ Covers (segs.map extent) (seg.addr.toNat + index) →
      leftover backing initial earlier index = 0) ∧
    Clean backing initial ((offset,seg.len.toNat)::earlier) (offset + seg.len.toNat) segs

variable (backing scratch : List UInt8) (offset : Nat)

def buffered (len : Nat) : List UInt8 := overwrite (resize scratch len) (readAt backing offset len)

theorem buffered_length (len : Nat) : (buffered backing scratch offset len).length = len := by
  simp only [buffered,overwrite,resize,readAt,length_append,length_drop,length_take,length_replicate]
  omega

theorem buffered_byte (len index : Nat) :
    ((buffered backing scratch offset len)[index]?).getD 0 =
      if len ≤ index then 0 else (backing[offset + index]?).getD ((scratch[index]?).getD 0) := by
  have size : (readAt backing offset len).length = min len (backing.length - offset) := by
    rw [readAt,length_take,length_drop]
  split
  · next past =>
    rw [getElem?_eq_none (by rw [buffered_length]; exact past)]
    rfl
  next within =>
  rw [buffered,overwrite,getElem?_append]
  split
  · next held =>
    have inFile : offset + index < backing.length := by omega
    simp [readAt,getElem?_eq_getElem inFile,Nat.lt_of_not_le within]
  · next short =>
    have past : backing.length ≤ offset + index := by omega
    rw [getElem?_eq_none past,Option.getD_none,getElem?_drop,
      Nat.add_sub_cancel' (Nat.le_of_not_lt short),resize,getElem?_append]
    split
    · rw [getElem?_take,if_pos (Nat.lt_of_not_le within)]
    · next beyond =>
      rw [length_take] at beyond
      rw [getElem?_replicate,getElem?_eq_none (l := scratch) (by omega)]
      split
      · rfl
      · rfl

section
variable (counters : Counters) (mem : GuestMemoryMmap) (bytesToGuest : UInt32) (bytesFromBacking : Nat)
  (segs : List ChainDescriptor)

theorem dataLen_cons (seg : ChainDescriptor) : dataLen (seg::segs) = seg.len.toNat + dataLen segs := by
  simp [dataLen]

theorem readSegments_cons {seg : ChainDescriptor} (here : mem.accepts seg.addr seg.len.toNat)
    (out : seg.isWriteOnly) :
    let buffer := buffered backing scratch offset seg.len.toNat
    readSegments backing counters mem scratch bytesToGuest bytesFromBacking offset (seg::segs) =
      readSegments backing counters {mem with byte := store mem.byte seg.addr.toNat buffer} buffer (bytesToGuest + seg.len)
        (bytesFromBacking + (readAt backing offset seg.len.toNat).length) (offset + seg.len.toNat) segs := by
  have written := writeSlice_accepted mem (buffered backing scratch offset seg.len.toNat) seg.addr (by
    rw [buffered_length]
    exact here)
  rw [buffered] at written
  simp only [readSegments,out,written]
  rfl

theorem segments_count (accepted : ∀ seg ∈ segs, mem.accepts seg.addr seg.len.toNat) (directed : ∀ seg ∈ segs, seg.isWriteOnly) :
    let result := readSegments backing counters mem scratch bytesToGuest bytesFromBacking offset segs
    result.counters = counters.record (.recordRead (bytesFromBacking + (readAt backing offset (dataLen segs)).length)) ∧
      result.mem = {mem with byte := result.mem.byte} := by
  induction segs generalizing mem scratch bytesToGuest bytesFromBacking offset with
  | nil => simp [readSegments,readAt,dataLen]
  | cons seg segs ih =>
    obtain ⟨here,rest⟩ := forall_mem_cons.mp accepted
    obtain ⟨out,others⟩ := forall_mem_cons.mp directed
    simp only [readSegments_cons _ _ _ _ _ _ _ _ here out]
    refine And.imp_left (fun counted => counted.trans ?_) (ih _ _ _ _ _ (by exact rest) others)
    congr 2
    simp only [dataLen_cons,readAt,length_take,length_drop]
    omega

theorem segments_bytes {initial : List UInt8} (other : Nat → UInt8) (earlier : List (Nat × Nat))
    (accepted : ∀ seg ∈ segs, mem.accepts seg.addr seg.len.toNat)
    (directed : ∀ seg ∈ segs, seg.isWriteOnly)
    (held : ∀ index, (scratch[index]?).getD 0 = leftover backing initial earlier index) :
    (readSegments backing counters mem scratch bytesToGuest bytesFromBacking offset segs).mem.byte =
        scatter other (segs.map extent) (load (fileByte backing) offset (dataLen segs)) ↔
      (∀ address, ¬ Covers (segs.map extent) address → mem.byte address = other address) ∧
        Clean backing initial earlier offset segs := by
  induction segs generalizing mem other scratch earlier bytesToGuest bytesFromBacking offset with
  | nil =>
    simp only [readSegments,map_nil,scatter,Clean,Covers,not_mem_nil,false_and,exists_false,not_false_eq_true,
      forall_const,and_true]
    exact funext_iff
  | cons seg segs ih =>
    obtain ⟨here,rest⟩ := forall_mem_cons.mp accepted
    obtain ⟨out,others⟩ := forall_mem_cons.mp directed
    have size := buffered_length backing scratch offset seg.len.toNat
    have byte := buffered_byte backing scratch offset seg.len.toNat
    rw [readSegments_cons _ _ _ _ _ _ _ _ here out]
    generalize buffered backing scratch offset seg.len.toNat = buffer at *
    have next := ih buffer (offset + seg.len.toNat) {mem with byte := store mem.byte seg.addr.toNat buffer}
      (bytesToGuest + seg.len) (bytesFromBacking + (readAt backing offset seg.len.toNat).length)
      (store other seg.addr.toNat (load (fileByte backing) offset seg.len.toNat)) ((offset,seg.len.toNat)::earlier)
      rest others (by
        intro index
        rw [byte index,leftover,held])
    have full := load_length (fileByte backing) offset seg.len.toNat
    have agree := store_eq_iff mem.byte other seg.addr.toNat buffer (load (fileByte backing) offset seg.len.toNat)
      (by rw [size,load_length]) fun address => ¬ Covers (segs.map extent) address
    rw [map_cons,scatter,extent]
    rw [dataLen_cons,load_add,take_left' full,drop_left' full]
    refine next.trans ?_
    rw [agree,size,and_assoc]
    refine and_congr ?_ (and_congr_left fun _ => ?_)
    · simp only [Covers,exists_mem_cons_iff]
      constructor
      · intro outer address uncovered
        exact outer address (fun later => uncovered (Or.inr later)) (by omega)
      · intro outer address uncovered outside
        exact outer address fun covered => covered.elim (by omega) uncovered
    · refine forall_congr' fun index => forall_congr' fun inside => ?_
      have value := byte index
      rw [if_neg (Nat.not_le_of_lt inside),getElem?_eq_getElem (size ▸ inside),Option.getD_some,held] at value
      rw [getElem?_eq_getElem (size ▸ inside),getElem?_eq_getElem (by rw [load_length]; exact inside),
        Option.some_inj,value]
      simp only [load,fileByte,getElem_map,getElem_range]
      rcases lt_or_ge (offset + index) backing.length with inFile | past
      · simp [getElem?_eq_getElem inFile,Nat.not_le_of_lt inFile]
      · rw [getElem?_eq_none past]
        exact ⟨fun clean _ => clean,fun clean => clean past⟩

end

/-- The vectored handler fails without a trace exactly for a range that overflows or leaves the disk; otherwise it fills the
segments as the per-segment one does, from the file as if zeros followed it, and counts as many bytes. -/
def ReadsAlike (getSlices : UInt64 → Nat → List (Option Nat)) (backing : List UInt8) (capacityBytes : UInt64)
    (counters : Counters) (mem : GuestMemoryMmap) (sector : UInt64) (segs : List ChainDescriptor) (scratch : List UInt8) : Prop :=
  let vectored := handleReadVectoredImpl getSlices backing capacityBytes counters mem sector segs (dataLen segs)
  let plain := handleReadImpl backing capacityBytes counters mem sector segs (dataLen segs) scratch
  let start := sector.toNat * 512
  if 2 ^ 64 ≤ start ∨ capacityBytes.toNat < start + dataLen segs then
    vectored.status = sIoerr ∧ vectored.usedLen = 1 ∧ vectored.mem = mem
  else
    vectored.status = sOk ∧ vectored.usedLen.toNat = dataLen segs + 1 ∧
      vectored.mem = {mem with byte := scatter mem.byte (segs.map extent) (load (fileByte backing) start (dataLen segs))} ∧
      vectored.mem = plain.mem ∧ vectored.counters.bytesRead = plain.counters.bytesRead

theorem outOfRange_iff {capacityBytes sector : UInt64} {bytes : Nat} :
    outOfRange capacityBytes.toNat sector.toNat bytes ↔
      2 ^ 64 ≤ sector.toNat * 512 ∨ capacityBytes.toNat < sector.toNat * 512 + bytes := by
  have small := capacityBytes.toNat_lt
  rw [outOfRange,Bool.or_eq_true,Bool.or_eq_true,decide_eq_true_iff,decide_eq_true_iff,decide_eq_true_iff,sectorSize]
  omega

theorem usedLen_iff (bytes : Nat) : (UInt32.ofNat bytes + 1).toNat = bytes + 1 ↔ bytes + 1 < 2 ^ 32 := by
  change (bytes % 2 ^ 32 + 1) % 2 ^ 32 = bytes + 1 ↔ _
  omega

/-- For every file, disk, sector and list of mapped segments the device may write: the two handlers read alike exactly if
the request is refused, or its length is in range and nothing but zeros is left over where it passes the end of the file. -/
theorem reads_alike_iff (getSlices : UInt64 → Nat → List (Option Nat)) (backing : List UInt8) (capacityBytes : UInt64)
    (counters : Counters) (mem : GuestMemoryMmap) (sector : UInt64) (segs : List ChainDescriptor) (scratch : List UInt8)
    (regions : Regions mem.accepts getSlices) (accepted : ∀ seg ∈ segs, mem.accepts seg.addr seg.len.toNat = true)
    (directed : ∀ seg ∈ segs, seg.isWriteOnly = true) :
    ReadsAlike getSlices backing capacityBytes counters mem sector segs scratch ↔
      (2 ^ 64 ≤ sector.toNat * 512 ∨ capacityBytes.toNat < sector.toNat * 512 + dataLen segs) ∨
        dataLen segs + 1 < 2 ^ 32 ∧ Clean backing scratch [] (sector.toNat * 512) segs := by
  rw [ReadsAlike]
  by_cases outside : 2 ^ 64 ≤ sector.toNat * 512 ∨ capacityBytes.toNat < sector.toNat * 512 + dataLen segs
  · have refused := outOfRange_iff.mpr outside
    rw [if_pos outside,handleReadVectoredImpl,if_pos refused]
    exact ⟨fun _ => Or.inl outside,fun _ => ⟨rfl,rfl,rfl⟩⟩
  · have inside := Bool.eq_false_of_not_eq_true (outOfRange_iff.not.mpr outside)
    have fills := vectored_fills getSlices backing capacityBytes sector counters mem segs regions accepted directed inside
    have plain : handleReadImpl backing capacityBytes counters mem sector segs (dataLen segs) scratch =
        readSegments backing counters mem scratch 0 0 (sector.toNat * 512) segs := by
      rw [handleReadImpl,if_neg (by rw [inside]; simp)]
      rfl
    obtain ⟨counted,same⟩ := segments_count backing scratch (sector.toNat * 512) counters mem 0 0 segs accepted directed
    have bytes := segments_bytes backing scratch (sector.toNat * 512) counters mem 0 0 segs mem.byte [] accepted
      directed fun _ => rfl
    rw [if_neg outside,fills,plain,counted]
    dsimp only [sectorSize] at *
    rw [usedLen_iff]
    constructor
    · rintro ⟨_,short,_,equal,_⟩
      refine Or.inr ⟨short,(bytes.mp ?_).2⟩
      exact (congrArg GuestMemoryMmap.byte equal).symm
    · rintro (out | ⟨short,clean⟩)
      · exact absurd out outside
      · refine ⟨rfl,short,rfl,?_,by simp [Counters.record]⟩
        rw [same,bytes.mpr ⟨fun _ _ => rfl,clean⟩]

/-- One region at the bottom of the address space, handed out in one slice. -/
def oneRegion : GuestMemoryMmap := ⟨fun _ => 0,fun addr len => decide (addr.toNat + len ≤ 65536),fun _ _ => 0⟩

def oneSlice : UInt64 → Nat → List (Option Nat) := fun _ len => [some len]

theorem oneRegion_regions : Regions oneRegion.accepts oneSlice where
  below addr len accepted := by
    have fits := of_decide_eq_true accepted
    omega
  within addr len offset count accepted inside _ := by
    have fits := of_decide_eq_true accepted
    refine decide_eq_true ?_
    rw [toNat_add_ofNat addr offset (by omega)]
    omega
  slices addr len _ _ := ⟨[len],rfl,by simp⟩

/-- A file that ends inside a segment. -/
theorem short_file_read_alike : ReadsAlike oneSlice [7] 4 {} oneRegion 0 [⟨4096,2,true⟩] [] :=
  (reads_alike_iff oneSlice [7] 4 {} oneRegion 0 [⟨4096,2,true⟩] [] oneRegion_regions (by decide) (by decide)).mpr
    (Or.inr ⟨by decide,⟨fun _ _ _ _ => rfl,trivial⟩⟩)

/-- Two segments of one byte and a file of one byte: the second segment is given the byte of the first, not a zero. -/
theorem first_byte_read_twice : ¬ ReadsAlike oneSlice [7] 4 {} oneRegion 0 [⟨4096,1,true⟩,⟨8192,1,true⟩] [] := by
  intro alike
  have fills := vectored_fills oneSlice [7] 4 0 {} oneRegion [⟨4096,1,true⟩,⟨8192,1,true⟩] oneRegion_regions (by decide)
    (by decide) (by decide)
  rw [ReadsAlike,if_neg (by decide),fills] at alike
  have second := congrArg (fun mem => mem.byte 8192) alike.2.2.2.1
  revert second
  decide

end Ktstr.ReadHandlers
