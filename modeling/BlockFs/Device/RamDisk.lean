import BlockFs.Device.Basic
import BlockFs.Device.Image
import Std.Data.ExtTreeSet

namespace BlockFs

/-- A disk in memory that can be told to fail on chosen blocks.  It remembers which blocks were
written back since the last flush. -/
structure RamDisk where
  image : Image
  dirty : Std.ExtTreeSet Nat := ∅
  failingReads : Std.ExtTreeSet Nat := ∅
  failingWrites : Std.ExtTreeSet Nat := ∅

namespace RamDisk

/-- A disk of zeros.  A partial block at its end cannot be read or written as a block. -/
def ofSize (bytes : Nat) : RamDisk where
  image := .zeros bytes

def ofBlocks (count : Nat) : RamDisk := ofSize (count * blockSize)

variable (disk : RamDisk)

def blockCount : Nat := disk.image.size / blockSize

def read (block : UInt32) (length : Nat) : Except DeviceError Block :=
  match BlockDevice.checkTransfer disk.blockCount block length with
  | .error cause => .error cause
  | .ok () =>
      if disk.failingReads.contains block.toNat then .error (.injected .read)
      else .ok (disk.image.page block.toNat)

def write (block : UInt32) (data : ByteArray) (durability : Durability) :
    Except DeviceError RamDisk :=
  match BlockDevice.checkWrite disk.blockCount block data with
  | .error cause => .error cause
  | .ok content =>
      if disk.failingWrites.contains block.toNat then .error (.injected .write)
      else
        .ok { disk with
          image := disk.image.setPage block.toNat content
          dirty :=
            match durability with
            | .writeThrough => disk.dirty.erase block.toNat
            | .writeBack => disk.dirty.insert block.toNat }

def flush : RamDisk := { disk with dirty := ∅ }

instance : BlockDevice RamDisk where
  blockCount := blockCount
  byteSize disk := disk.blockCount * blockSize
  content disk := disk.image.page
  read disk block length := (disk.read block length, disk)
  write disk block data durability :=
    match disk.write block data durability with
    | .ok written => (.ok (), written)
    | .error cause => (.error cause, disk)
  flush disk := (.ok (), disk.flush)

def dirtyBlocks : Nat := disk.dirty.size

def failReads (blocks : List UInt32) : RamDisk :=
  { disk with failingReads := disk.failingReads.insertMany (blocks.map UInt32.toNat) }

def failWrites (blocks : List UInt32) : RamDisk :=
  { disk with failingWrites := disk.failingWrites.insertMany (blocks.map UInt32.toNat) }

def heal : RamDisk := { disk with failingReads := ∅, failingWrites := ∅ }

def peek (block : UInt32) : Except Error Block := disk.image.peek block.toNat

def poke (offset : Nat) (bytes : ByteArray) : Except Error RamDisk :=
  (fun image => { disk with image }) <$> disk.image.poke offset bytes

end RamDisk

end BlockFs
