import Ktstr.Library.Bytes
import Ktstr.Library.Incremental

/-! Binary records: fields of given widths, little-endian, one behind the other; and strings of records that each carry
their own length. -/
namespace Ktstr.Library.Records
open List Bytes Incremental

def leBytes (width value : Nat) : List UInt8 := (List.range width).map fun i => UInt8.ofNat (value / 256 ^ i)

def record (fields : List (Nat × Nat)) : List UInt8 := fields.flatMap fun field => leBytes field.1 field.2

def widths (fields : List (Nat × Nat)) : Nat := (fields.map Prod.fst).sum

def readField (bytes : List UInt8) (offset width : Nat) : Nat := leNat (slice bytes offset (offset + width))

@[simp] theorem length_leBytes {width value : Nat} : (leBytes width value).length = width := by
  simp [leBytes]

@[simp] theorem length_record {fields : List (Nat × Nat)} : (record fields).length = widths fields := by
  simp [record,widths]

theorem readField_record (start : List UInt8) (before : List (Nat × Nat)) (width value : Nat)
    (after : List (Nat × Nat)) (rest : List UInt8) :
    readField (start ++ record (before ++ (width,value)::after) ++ rest) (start.length + widths before) width =
      value % 256 ^ width := by
  have split : start ++ record (before ++ (width,value)::after) ++ rest =
      (start ++ record before) ++ (leBytes width value ++ (record after ++ rest)) := by
    simp [record]
  rw [readField,slice_eq,split,drop_left' (by simp),take_left' length_leBytes,leBytes,leNat_digits]

theorem readField_at (fields : List (Nat × Nat)) (index width value : Nat) (found : fields[index]? = some (width,value))
    (fits : value < 256 ^ width) : readField (record fields) (widths (fields.take index)) width = value := by
  obtain ⟨inside,is⟩ := List.getElem?_eq_some_iff.mp found
  have split : fields.take index ++ (width,value)::fields.drop (index + 1) = fields := by
    rw [← is,← drop_eq_getElem_cons inside,take_append_drop]
  have read := readField_record [] (fields.take index) width value (fields.drop (index + 1)) []
  rw [split,append_nil,length_nil,Nat.zero_add] at read
  exact read.trans (Nat.mod_eq_of_lt fits)

theorem readField_drop (bytes : List UInt8) (start offset width : Nat) :
    readField (bytes.drop start) offset width = readField bytes (start + offset) width := by
  rw [readField,readField,slice_eq,slice_eq,drop_drop]

theorem readField_take {bytes : List UInt8} {count offset width : Nat} (inside : offset + width ≤ count) :
    readField (bytes.take count) offset width = readField bytes offset width := by
  rw [readField,readField,slice_eq,slice_eq,drop_take,take_take,Nat.min_eq_left (by omega)]

/-- Records whose whole length is read from a header of fixed size. -/
def recordParser (header : Nat) (lengthOf : List UInt8 → Nat) (positive : 0 < header) : Parser UInt8 (List UInt8) where
  next input :=
    let length := lengthOf (input.take header)
    if header ≤ length ∧ length ≤ input.length then some (input.take length,input.drop length) else none
  shrinks input item rest taken := by
    simp only [Option.ite_none_right_eq_some,Option.some.injEq,Prod.mk.injEq] at taken
    obtain ⟨fits,rfl,rfl⟩ := taken
    rw [length_drop]
    omega
  stable input item rest more taken := by
    simp only [Option.ite_none_right_eq_some,Option.some.injEq,Prod.mk.injEq] at taken
    obtain ⟨fits,rfl,rfl⟩ := taken
    have same : (input ++ more).take header = input.take header := take_append_of_le_length (by omega)
    simp only [same]
    rw [if_pos ⟨fits.1,by rw [length_append]; omega⟩,take_append_of_le_length fits.2,
      drop_append_of_le_length fits.2]

theorem decode_records {header : Nat} {lengthOf : List UInt8 → Nat} (positive : 0 < header)
    {records : List (List UInt8)}
    (sized : ∀ bytes ∈ records, header ≤ bytes.length ∧ lengthOf (bytes.take header) = bytes.length) :
    decode (recordParser header lengthOf positive) records.flatten = (records,[]) := by
  induction records with
  | nil =>
    refine decode_none ?_
    simp [recordParser]
    omega
  | cons bytes records ih =>
    obtain ⟨long,length⟩ := sized bytes (mem_cons_self ..)
    have taken : (recordParser header lengthOf positive).next (bytes ++ records.flatten) =
        some (bytes,records.flatten) := by
      simp only [recordParser,take_append_of_le_length long,length]
      rw [if_pos ⟨long,by simp⟩,take_left,drop_left]
    rw [flatten_cons,decode_some _ _ _ _ taken,ih fun other mem => sized other (mem_cons_of_mem _ mem)]

end Ktstr.Library.Records
