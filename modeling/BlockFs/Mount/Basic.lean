import BlockFs.Bitmap.Basic
import BlockFs.Inode
import BlockFs.Superblock

/-!
The metadata of a mounted filesystem, held in memory.

Every change of the free-space maps raises the generation.  `synced` is the generation that the
device holds, so a mount is dirty exactly while the two differ.
-/

namespace BlockFs

structure Mount where
  superblock : Superblock
  inodeBitmap : Bitmap
  blockBitmap : Bitmap
  /-- The root directory's inode, as of the mount or the last write of it. -/
  root : Inode
  generation : Nat := 0
  synced : Nat := 0
deriving DecidableEq

structure Stats where
  type : UInt32
  blockSize : Nat
  blocks : UInt32
  freeBlocks : UInt32
  availableBlocks : UInt32
  files : UInt32
  freeFiles : UInt32
  nameLength : Nat
deriving DecidableEq, Repr

namespace Mount

variable (mount : Mount)

def geometry : Geometry := mount.superblock.geometry

def isDirty : Bool := mount.generation != mount.synced

/-- The device holds what the mount held at a generation, or what it held later. -/
def markSynced (generation : Nat) : Mount :=
  { mount with synced := max mount.synced generation }

def stats : Stats where
  type := formatMagic
  blockSize := BlockFs.blockSize
  blocks := mount.superblock.blocks
  freeBlocks := mount.superblock.freeBlocks
  availableBlocks := mount.superblock.freeBlocks
  files := .ofNat (mount.superblock.inodes.toNat - mount.superblock.freeInodes.toNat)
  freeFiles := mount.superblock.freeInodes
  nameLength := BlockFs.nameLength

end Mount

end BlockFs
