import Mathlib.Algebra.Group.Nat.Defs
import Mathlib.Data.List.Basic

namespace SoftwareContainers

/-! Memory of a fixed size, read and written through pointers into it. -/

abbrev Bytes := List UInt8

namespace Bytes

/-- The bytes from an offset on; outside of the memory there are none. -/
def read (memory : Bytes) (offset size : Nat) : Option Bytes :=
  if offset + size ≤ memory.length then some ((memory.drop offset).take size) else none

def write (memory : Bytes) (offset : Nat) (bytes : Bytes) : Option Bytes :=
  if offset + bytes.length ≤ memory.length then
    some (memory.take offset ++ (bytes ++ memory.drop (offset + bytes.length)))
  else none

theorem read_length {memory bytes : Bytes} {offset size : Nat}
    (found : memory.read offset size = some bytes) : bytes.length = size := by
  unfold read at found
  split at found
  · rename_i inside
    cases found
    rw [List.length_take, List.length_drop]
    omega
  · cases found

theorem write_length {memory after bytes : Bytes} {offset : Nat}
    (written : memory.write offset bytes = some after) :
    after.length = memory.length := by
  unfold write at written
  split at written
  · rename_i inside
    cases written
    simp only [List.length_append, List.length_take, List.length_drop]
    omega
  · cases written

theorem write_isSome_iff {memory bytes : Bytes} {offset : Nat} :
    (memory.write offset bytes).isSome ↔ offset + bytes.length ≤ memory.length := by
  unfold write
  split
  · exact ⟨fun _ => by assumption, fun _ => rfl⟩
  · rename_i outside
    exact ⟨nofun, fun inside => absurd inside outside⟩

theorem read_write_before {memory after bytes : Bytes} {offset size start : Nat}
    (written : memory.write start bytes = some after) (before : offset + size ≤ start) :
    after.read offset size = memory.read offset size := by
  have sameLength := write_length written
  unfold write at written
  split at written
  · rename_i inside
    cases written
    unfold read
    rw [sameLength, if_pos (by omega), if_pos (by omega),
      List.drop_append_of_le_length (by rw [List.length_take]; omega),
      List.take_append_of_le_length (by rw [List.length_drop, List.length_take]; omega),
      List.drop_take, List.take_take, Nat.min_eq_left (by omega)]
  · cases written

theorem read_write_behind {memory after bytes : Bytes} {offset size start : Nat}
    (written : memory.write start bytes = some after)
    (behind : start + bytes.length ≤ offset) :
    after.read offset size = memory.read offset size := by
  have sameLength := write_length written
  unfold write at written
  split at written
  · rename_i inside
    cases written
    have taken : (memory.take start).length = start := by
      rw [List.length_take]
      omega
    have same : (memory.take start ++ (bytes ++ memory.drop (start + bytes.length))).drop
        offset = memory.drop offset := by
      rw [← List.append_assoc, List.drop_append, List.length_append, taken,
        List.drop_eq_nil_of_le (by rw [List.length_append, taken]; exact behind),
        List.nil_append, List.drop_drop, Nat.add_sub_cancel' behind]
    unfold read
    rw [sameLength, same]
  · cases written

theorem read_replicate {length offset size : Nat} {byte : UInt8}
    (inside : offset + size ≤ length) :
    read (List.replicate length byte) offset size = some (List.replicate size byte) := by
  unfold read
  rw [List.length_replicate, if_pos inside, List.drop_replicate, List.take_replicate,
    Nat.min_eq_left (by omega)]

theorem read_write_part {memory after first middle last : Bytes} {start : Nat}
    (written : memory.write start (first ++ (middle ++ last)) = some after) :
    after.read (start + first.length) middle.length = some middle := by
  have sameLength := write_length written
  unfold write at written
  split at written
  · rename_i inside
    cases written
    simp only [List.length_append] at inside
    have taken : (memory.take start).length = start := by
      rw [List.length_take]
      omega
    unfold read
    rw [sameLength, if_pos (by omega), List.drop_append, taken, List.append_assoc,
      List.drop_eq_nil_of_le (by rw [taken]; omega), List.nil_append, Nat.add_sub_cancel_left,
      List.drop_left, List.append_assoc, List.take_left]
  · cases written

end Bytes

/-! Integers of 16 bits in the memory of a machine that stores the low byte first. -/

def encode16 (value : UInt16) : Bytes := [value.toUInt8, (value >>> 8).toUInt8]

def decode16 : Bytes → UInt16
  | [low, high] => UInt16.ofNat (low.toNat + 256 * high.toNat)
  | _ => 0

theorem decode16_encode16 (value : UInt16) : decode16 (encode16 value) = value := by
  apply UInt16.toNat_inj.mp
  have bound := value.toNat_lt
  simp only [encode16, decode16, UInt16.toNat_ofNat', UInt16.toNat_toUInt8,
    UInt16.toNat_shiftRight, UInt16.reduceToNat, Nat.shiftRight_eq_div_pow]
  have shift : 2 ^ (8 % 16) = 256 := rfl
  rw [shift]
  omega

@[simp] theorem encode16_length (value : UInt16) : (encode16 value).length = 2 := rfl

end SoftwareContainers
