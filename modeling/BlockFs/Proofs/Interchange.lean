import BlockFs.Proofs.Commands
import BlockFs.Proofs.Device.RamDisk

namespace BlockFs

open BlockDevice

/-- A file and a disk in memory with the same bytes, neither of which refuses a transfer. -/
structure ImageFile.Mirrors (file : ImageFile) (disk : RamDisk) : Prop where
  image : file.image = disk.image
  openedSize : file.openedSize = disk.image.size
  access : file.access = .readWrite
  limit : file.limit = none
  failingReads : disk.failingReads = ∅
  failingWrites : disk.failingWrites = ∅

namespace ImageFile.Mirrors

variable {file : ImageFile} {disk : RamDisk}

theorem ofSize (bytes : Nat) : Mirrors (.ofSize bytes .readWrite) (.ofSize bytes) :=
  ⟨rfl, rfl, rfl, rfl, rfl, rfl⟩

theorem blockCount (mirrors : Mirrors file disk) : file.blockCount = disk.blockCount :=
  congrArg (· / blockSize) mirrors.openedSize

theorem read (mirrors : Mirrors file disk) (block : UInt32) (length : Nat) :
    file.read block length = disk.read block length := by
  simp only [ImageFile.read, RamDisk.read, checkTransfer, mirrors.blockCount]
  by_cases outside : disk.blockCount ≤ block.toNat
  · simp only [outside, if_true]
  · by_cases whole : length = blockSize
    · have end_le := RamDisk.end_le (Nat.lt_of_not_le outside)
      simp [outside, whole, mirrors.access, end_le, mirrors.failingReads, mirrors.image]
    · simp only [outside, whole, if_false]

theorem write (mirrors : Mirrors file disk) (block : UInt32) (data : ByteArray)
    (durability : Durability) :
    Agree Mirrors (BlockDevice.write file block data durability)
      (BlockDevice.write disk block data durability) := by
  simp only [BlockDevice.write, ImageFile.write, RamDisk.write, checkWrite, mirrors.blockCount]
  by_cases outside : disk.blockCount ≤ block.toNat
  · simp only [outside, if_true]
    exact ⟨rfl, mirrors⟩
  · by_cases whole : data.size = blockSize
    · simp only [outside, whole, if_false, dif_pos, mirrors.access, reduceCtorEq, refusal,
        mirrors.limit, Option.bind_none, mirrors.failingWrites, Std.ExtTreeSet.contains_empty,
        Bool.false_eq_true]
      refine ⟨rfl, ?_, mirrors.openedSize, rfl, rfl, mirrors.failingReads, rfl⟩
      have end_le := RamDisk.end_le (Nat.lt_of_not_le outside)
      simp only [Image.setPage, mirrors.image, Nat.max_eq_left end_le]
    · simp only [outside, whole, if_false, dif_neg, not_false_eq_true]
      exact ⟨rfl, mirrors⟩

end ImageFile.Mirrors

theorem ImageFile.coupling : Coupling (· = ·) ImageFile.Mirrors where
  wholeBlocks {file disk} mirrors := by
    have count : disk.blockCount * blockSize / blockSize = disk.blockCount :=
      Nat.mul_div_cancel _ (by decide)
    exact mirrors.blockCount.trans count.symm
  perform {file disk _ _} mirrors same := by
    cases same with
    | read block length =>
        simp only [Request.perform, BlockDevice.read, mirrors.read]
        exact ⟨rfl, mirrors⟩
    | write block data choices =>
        obtain rfl := choices
        obtain ⟨answers, after⟩ := mirrors.write block data _
        exact ⟨congrArg (Except.map fun _ => none) answers, after⟩
    | flush =>
        exact ⟨rfl, mirrors.image, mirrors.openedSize, mirrors.access, mirrors.limit,
          mirrors.failingReads, mirrors.failingWrites⟩

/-- A zeroed file and a zeroed disk of the same size answer every list of requests alike, and every
list of commands, and hold the same bytes in the end; they agree in their size up to a partial
block. -/
theorem ImageFile.interchangeable (bytes : Nat) :
    (∀ requests : List Request,
      let file := serve Request.perform (ImageFile.ofSize bytes .readWrite) requests
      let disk := serve Request.perform (RamDisk.ofSize bytes) requests
      file.1 = disk.1 ∧ file.2.image = disk.2.image) ∧
    (∀ (bufferLimit : Nat) (commands : List Command),
      let file := serve Command.run
        (MountTable.ofDevice (ImageFile.ofSize bytes .readWrite) bufferLimit) commands
      let disk := serve Command.run (MountTable.ofDevice (RamDisk.ofSize bytes) bufferLimit) commands
      file.1 = disk.1 ∧ file.2.mounts = disk.2.mounts ∧
        file.2.host.device.image = disk.2.host.device.image) ∧
    byteSize (ImageFile.ofSize bytes .readWrite) = bytes ∧
    byteSize (RamDisk.ofSize bytes) = bytes - bytes % blockSize := by
  refine ⟨fun requests => ?_, fun bufferLimit commands => ?_, rfl, ?_⟩
  · obtain ⟨answers, mirrors⟩ := ImageFile.coupling.serve (fun _ => rfl) (.ofSize bytes) requests
    exact ⟨answers, mirrors.image⟩
  · have start : MountTable.Coupled ImageFile.Mirrors
        (.ofDevice (ImageFile.ofSize bytes .readWrite) bufferLimit)
        (.ofDevice (RamDisk.ofSize bytes) bufferLimit) := ⟨⟨.ofSize bytes, rfl⟩, rfl⟩
    obtain ⟨replies, coupled⟩ := start.serve ImageFile.coupling (fun _ => rfl) commands
    exact ⟨replies, coupled.mounts, coupled.host.device.image⟩
  · have whole : byteSize (RamDisk.ofSize bytes) + bytes % blockSize = bytes :=
      Nat.div_add_mod' bytes blockSize
    exact (Nat.sub_eq_of_eq_add whole.symm).symm

end BlockFs
