import BlockFs.Device.ImageFile
import BlockFs.Device.Monitor
import BlockFs.Device.RamDisk

namespace BlockFs

variable {block : UInt32} {length : Nat} {data : ByteArray} {durability : Durability}
  {cause : DeviceError}

namespace Image

theorem page_setPage (image : Image) (index other : Nat) (block : Block) :
    (image.setPage index block).page other = if other = index then block else image.page other := by
  simp only [page, setPage, Std.ExtTreeMap.getD_insert, Std.LawfulEqCmp.compare_eq_iff_eq,
    @eq_comm _ index]

end Image

namespace BlockDevice

theorem checkWrite_ok {count : Nat} {found : Block}
    (accepted : checkWrite count block data = .ok found) :
    checkTransfer count block data.size = .ok () ∧ found.bytes = data := by
  unfold checkWrite at accepted
  split at accepted
  · contradiction
  · rename_i inside
    split at accepted
    · rename_i fits
      cases accepted
      simp [checkTransfer, inside, fits]
    · contradiction

theorem checkWrite_error {count : Nat}
    (refused : checkTransfer count block data.size = .error cause) :
    checkWrite count block data = .error cause := by
  unfold checkTransfer at refused
  unfold checkWrite
  split at refused
  · rename_i outside
    cases refused
    exact if_pos outside
  · rename_i inside
    split at refused
    · contradiction
    · rename_i wrong
      cases refused
      rw [if_neg inside, dif_neg wrong]

end BlockDevice

open BlockDevice

namespace RamDisk

variable {disk after : RamDisk}

theorem write_ok (written : disk.write block data durability = .ok after) :
    ∃ size_bytes : data.size = blockSize,
      after.image = disk.image.setPage block.toNat ⟨data, size_bytes⟩ := by
  unfold RamDisk.write at written
  split at written
  · contradiction
  · rename_i found accepted
    split at written
    · contradiction
    · cases written
      have same := (checkWrite_ok accepted).2
      exact ⟨by rw [← same, found.size_bytes], by cases found; cases same; rfl⟩

instance : LawfulBlockDevice RamDisk where
  blockCount_read _ _ _ := rfl
  blockCount_write disk block data durability := by
    simp only [BlockDevice.write]
    cases written : disk.write block data durability with
    | error cause => rfl
    | ok after =>
        obtain ⟨_, image⟩ := write_ok written
        simp only [BlockDevice.blockCount, RamDisk.blockCount, image, Image.setPage]
  blockCount_flush _ := rfl
  byteSize_read _ _ _ := rfl
  byteSize_write disk block data durability := by
    simp only [BlockDevice.write]
    cases written : disk.write block data durability with
    | error cause => rfl
    | ok after =>
        obtain ⟨_, image⟩ := write_ok written
        simp only [BlockDevice.byteSize, RamDisk.blockCount, image, Image.setPage]
  byteSize_flush _ := rfl
  content_read _ _ _ := rfl
  content_flush _ := rfl
  content_write_of_error {disk block data durability cause} failed := by
    simp only [BlockDevice.write] at failed ⊢
    cases written : disk.write block data durability with
    | error cause => rfl
    | ok after => simp [written] at failed
  read_eq_content {disk block length found} succeeded := by
    simp only [BlockDevice.read, RamDisk.read] at succeeded
    split at succeeded
    · contradiction
    · split at succeeded
      · contradiction
      · cases succeeded
        rfl
  content_write {disk block data durability} succeeded := by
    simp only [BlockDevice.write] at succeeded ⊢
    cases written : disk.write block data durability with
    | error cause => simp [written] at succeeded
    | ok after =>
        obtain ⟨size_bytes, image⟩ := write_ok written
        refine ⟨size_bytes, ?_⟩
        funext index
        simp only [BlockDevice.content, image, Image.page_setPage]
  checkTransfer_read {disk block length cause} refused := by
    have check : checkTransfer disk.blockCount block length = .error cause := refused
    simp only [BlockDevice.read, RamDisk.read, check]
  checkTransfer_write {disk block data durability cause} refused := by
    have check : checkWrite disk.blockCount block data = .error cause := checkWrite_error refused
    simp only [BlockDevice.write, RamDisk.write, check]

end RamDisk

namespace ImageFile

variable {file after : ImageFile}

theorem write_ok (written : file.write block data = .ok after) :
    after.openedSize = file.openedSize ∧ ∃ size_bytes : data.size = blockSize,
      after.image = { file.image.setPage block.toNat ⟨data, size_bytes⟩ with
        size := max file.image.size ((block.toNat + 1) * blockSize) } := by
  unfold ImageFile.write at written
  split at written
  · contradiction
  · rename_i found accepted
    split at written
    · contradiction
    · split at written
      · contradiction
      · cases written
        have same := (checkWrite_ok accepted).2
        exact ⟨rfl, by rw [← same, found.size_bytes], by cases found; cases same; rfl⟩

theorem page_write (written : file.write block data = .ok after) :
    ∃ size_bytes : data.size = blockSize, after.image.page =
      fun index => if index = block.toNat then ⟨data, size_bytes⟩ else file.image.page index := by
  obtain ⟨_, size_bytes, image⟩ := write_ok written
  refine ⟨size_bytes, ?_⟩
  funext index
  rw [← Image.page_setPage, image]
  rfl

instance : LawfulBlockDevice ImageFile where
  blockCount_read _ _ _ := rfl
  blockCount_write file block data durability := by
    simp only [BlockDevice.write]
    cases written : file.write block data with
    | error cause => rfl
    | ok after => simp only [BlockDevice.blockCount, ImageFile.blockCount, (write_ok written).1]
  blockCount_flush _ := rfl
  byteSize_read _ _ _ := rfl
  byteSize_write file block data durability := by
    simp only [BlockDevice.write]
    cases written : file.write block data with
    | error cause => rfl
    | ok after => exact (write_ok written).1
  byteSize_flush _ := rfl
  content_read _ _ _ := rfl
  content_flush _ := rfl
  content_write_of_error {file block data durability cause} failed := by
    simp only [BlockDevice.write] at failed ⊢
    cases written : file.write block data with
    | error cause => rfl
    | ok after => simp [written] at failed
  read_eq_content {file block length found} succeeded := by
    simp only [BlockDevice.read, ImageFile.read] at succeeded
    split at succeeded
    · contradiction
    · split at succeeded
      · contradiction
      · split at succeeded
        · cases succeeded
          rfl
        · contradiction
  content_write {file block data durability} succeeded := by
    simp only [BlockDevice.write] at succeeded ⊢
    cases written : file.write block data with
    | error cause => simp [written] at succeeded
    | ok after => exact page_write written
  checkTransfer_read {file block length cause} refused := by
    have check : checkTransfer file.blockCount block length = .error cause := refused
    simp only [BlockDevice.read, ImageFile.read, check]
  checkTransfer_write {file block data durability cause} refused := by
    have check : checkWrite file.blockCount block data = .error cause := checkWrite_error refused
    simp only [BlockDevice.write, ImageFile.write, check]

end ImageFile

namespace Monitor

variable {δ : Type} [BlockDevice δ] [LawfulBlockDevice δ]

instance : LawfulBlockDevice (Monitor δ) where
  blockCount_read monitor := LawfulBlockDevice.blockCount_read monitor.device
  blockCount_write monitor := LawfulBlockDevice.blockCount_write monitor.device
  blockCount_flush monitor := by
    cases refuses : monitor.refusesFlush with
    | true => simp [BlockDevice.flush, BlockDevice.blockCount, observe, refuses]
    | false =>
        simpa [BlockDevice.flush, BlockDevice.blockCount, observe, refuses] using
          LawfulBlockDevice.blockCount_flush monitor.device
  byteSize_read monitor block length :=
    congrArg monitor.claimedSize.getD (LawfulBlockDevice.byteSize_read monitor.device block length)
  byteSize_write monitor block data durability :=
    congrArg monitor.claimedSize.getD
      (LawfulBlockDevice.byteSize_write monitor.device block data durability)
  byteSize_flush monitor := by
    cases refuses : monitor.refusesFlush with
    | true => simp [BlockDevice.flush, BlockDevice.byteSize, observe, refuses]
    | false =>
        simpa [BlockDevice.flush, BlockDevice.byteSize, observe, refuses] using
          congrArg monitor.claimedSize.getD (LawfulBlockDevice.byteSize_flush monitor.device)
  content_read monitor := LawfulBlockDevice.content_read monitor.device
  content_flush monitor := by
    cases refuses : monitor.refusesFlush with
    | true => simp [BlockDevice.flush, BlockDevice.content, observe, refuses]
    | false =>
        simpa [BlockDevice.flush, BlockDevice.content, observe, refuses] using
          LawfulBlockDevice.content_flush monitor.device
  content_write_of_error {monitor _ _ _ _} failed :=
    @LawfulBlockDevice.content_write_of_error δ _ _ monitor.device _ _ _ _ failed
  read_eq_content {monitor _ _ _} succeeded :=
    @LawfulBlockDevice.read_eq_content δ _ _ monitor.device _ _ _ succeeded
  content_write {monitor _ _ _} succeeded :=
    @LawfulBlockDevice.content_write δ _ _ monitor.device _ _ _ succeeded
  checkTransfer_read {monitor _ _ _} refused :=
    @LawfulBlockDevice.checkTransfer_read δ _ _ monitor.device _ _ _ refused
  checkTransfer_write {monitor _ _ _ _} refused :=
    @LawfulBlockDevice.checkTransfer_write δ _ _ monitor.device _ _ _ _ refused

end Monitor

end BlockFs
