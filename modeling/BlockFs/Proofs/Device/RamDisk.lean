import BlockFs.Proofs.Device.Image
import BlockFs.Proofs.Device.Request

namespace BlockFs

open BlockDevice

theorem compare_beq_eq (one two : Nat) : (compare one two == .eq) = decide (two = one) := by
  rw [Bool.eq_iff_iff, beq_iff_eq, Std.LawfulEqCmp.compare_eq_iff_eq, decide_eq_true_eq, eq_comm]

/-- Why a transfer is refused, if it is: for a block number beyond the end, else for a buffer that is
not one block, else for a failure that was injected. -/
def objection (count : Nat) (transfer : Transfer) (injected : Bool) (block : UInt32)
    (length : Nat) : Option DeviceError :=
  if count ≤ block.toNat then some (.pastEnd block count)
  else if length ≠ blockSize then some (.notOneBlock length)
  else if injected then some (.injected transfer)
  else none

/-- What a call tells of whether a block waits for a flush: a write that succeeds says so of its own
block, and a flush that no block does. -/
def CallRecord.settles (index : Nat) : CallRecord → Option Bool
  | ⟨.write block durability, false⟩ =>
      if block.toNat = index then some (decide (durability = .writeBack)) else none
  | ⟨.flush, false⟩ => some false
  | _ => none

namespace RamDisk

variable {disk written : RamDisk} {block : UInt32} {data : ByteArray} {durability : Durability}

theorem read_eq (disk : RamDisk) (block : UInt32) (length : Nat) :
    disk.read block length =
      (objection disk.blockCount .read (disk.failingReads.contains block.toNat) block length).elim
        (.ok (disk.image.page block.toNat)) .error := by
  unfold RamDisk.read checkTransfer objection
  by_cases outside : disk.blockCount ≤ block.toNat
  · simp only [outside, if_true, Option.elim_some]
  · by_cases whole : length = blockSize
    · simp only [outside, whole, if_true, if_false, ne_eq, not_true_eq_false]
      cases disk.failingReads.contains block.toNat <;> rfl
    · simp only [outside, whole, if_true, if_false, ne_eq, not_false_eq_true, Option.elim_some]

theorem write_eq (disk : RamDisk) (block : UInt32) (data : ByteArray) (durability : Durability) :
    (BlockDevice.write disk block data durability).1 =
      (objection disk.blockCount .write (disk.failingWrites.contains block.toNat) block
        data.size).elim (.ok ()) .error := by
  simp only [BlockDevice.write, RamDisk.write, checkWrite, objection]
  by_cases outside : disk.blockCount ≤ block.toNat
  · simp only [outside, if_true, Option.elim_some]
  · by_cases whole : data.size = blockSize
    · simp only [outside, whole, if_false, dif_pos, ne_eq, not_true_eq_false]
      cases disk.failingWrites.contains block.toNat <;> rfl
    · simp only [outside, whole, if_false, if_true, dif_neg, ne_eq, not_false_eq_true,
        Option.elim_some]

/-- A write that succeeds is one of the disk, and one that fails leaves the disk as it was. -/
theorem write_cases (disk : RamDisk) (block : UInt32) (data : ByteArray)
    (durability : Durability) :
    ((BlockDevice.write disk block data durability).1 = .ok () ∧
      disk.write block data durability = .ok (BlockDevice.write disk block data durability).2) ∨
    (∃ cause, (BlockDevice.write disk block data durability).1 = .error cause) ∧
      (BlockDevice.write disk block data durability).2 = disk := by
  simp only [BlockDevice.write]
  cases wrote : disk.write block data durability with
  | ok written => exact .inl ⟨rfl, rfl⟩
  | error cause => exact .inr ⟨⟨cause, rfl⟩, rfl⟩

/-- A write back makes its block wait for a flush, and a write through ends its waiting. -/
theorem contains_dirty_of_write (wrote : disk.write block data durability = .ok written)
    (index : Nat) : written.dirty.contains index =
      if index = block.toNat then decide (durability = .writeBack)
      else disk.dirty.contains index := by
  unfold RamDisk.write at wrote
  split at wrote
  · cases wrote
  · split at wrote
    · cases wrote
    · cases wrote
      cases durability with
      | writeThrough =>
          simp only [Std.ExtTreeSet.contains_erase, bne, compare_beq_eq]
          by_cases here : index = block.toNat <;> simp [here]
      | writeBack =>
          simp only [Std.ExtTreeSet.contains_insert, compare_beq_eq]
          by_cases here : index = block.toNat <;> simp [here]

theorem lt_of_write (wrote : disk.write block data durability = .ok written) :
    block.toNat < disk.blockCount := by
  apply Nat.lt_of_not_le
  intro outside
  simp only [RamDisk.write, checkWrite, if_pos outside] at wrote
  contradiction

/-- The whole blocks lie inside the image. -/
theorem end_le {index : Nat} (inside : index < disk.blockCount) :
    (index + 1) * blockSize ≤ disk.image.size :=
  (Nat.le_div_iff_mul_le (by decide)).mp inside

/-- A block that is read is the slice at its place. -/
theorem window_of_read {length : Nat} {found : Block}
    (succeeded : disk.read block length = .ok found) :
    window disk.image.bytes (block.toNat * blockSize) blockSize = .ok found.bytes := by
  rw [read_eq, objection] at succeeded
  split at succeeded
  · contradiction
  · rename_i inside
    split at succeeded
    · contradiction
    · split at succeeded
      · contradiction
      · cases succeeded
        exact Image.window_bytes (end_le (Nat.lt_of_not_le inside))

/-- A block that is written is spliced in at its place. -/
theorem splice_of_write (wrote : disk.write block data durability = .ok written) :
    (disk.image.octets.splice (block.toNat * blockSize) data).map Octets.bytes =
      .ok written.image.bytes := by
  obtain ⟨size_bytes, image⟩ := write_ok wrote
  rw [image]
  exact Image.splice_page (end_le (lt_of_write wrote)) ⟨data, size_bytes⟩

theorem failing_of_write (wrote : disk.write block data durability = .ok written) :
    written.failingReads = disk.failingReads ∧ written.failingWrites = disk.failingWrites := by
  unfold RamDisk.write at wrote
  split at wrote
  · cases wrote
  · split at wrote
    · cases wrote
    · cases wrote
      exact ⟨rfl, rfl⟩

theorem contains_dirty_perform (disk : RamDisk) (request : Request) (index : Nat) :
    (request.perform disk).2.dirty.contains index =
      (CallRecord.settles index ⟨request.call, !(request.perform disk).1.isOk⟩).getD
        (disk.dirty.contains index) := by
  cases request with
  | read block length =>
      simp only [Request.perform, Request.call, BlockDevice.read, CallRecord.settles,
        Option.getD_none]
  | flush =>
      simp only [Request.perform, Request.call, BlockDevice.flush, RamDisk.flush, Except.map,
        Except.isOk, Except.toBool, Bool.not_true, CallRecord.settles, Option.getD_some,
        Std.ExtTreeSet.contains_empty]
  | write block data durability =>
      simp only [Request.perform, Request.call, Request.isOk_map]
      rcases disk.write_cases block data durability with ⟨succeeded, wrote⟩ | ⟨⟨_, failed⟩, same⟩
      · rw [succeeded, contains_dirty_of_write wrote]
        by_cases here : index = block.toNat
        · simp [CallRecord.settles, Except.isOk, Except.toBool, here]
        · simp [CallRecord.settles, Except.isOk, Except.toBool, here, Ne.symm here]
      · rw [failed, same]
        rfl

end RamDisk

end BlockFs
