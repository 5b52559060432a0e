import BlockFs.Engine
import BlockFs.Mount.Basic

namespace BlockFs

open Engine

variable {δ : Type} [BlockDevice δ]

def Superblock.readInode (superblock : Superblock) (number : UInt32) : Engine δ Inode := do
  if superblock.inodes ≤ number then
    throw (.outOfRange number.toNat superblock.inodes.toNat)
  let address := Inode.address number
  let block ← readBlock .inodeTable address.block
  Inode.decode (← window block.bytes address.offset inodeSize)

namespace Mount

def readInode (mount : Mount) (number : UInt32) : Engine δ Inode :=
  mount.superblock.readInode number

/-- Writes a record and keeps the rest of its block. -/
def writeInode (mount : Mount) (number : UInt32) (inode : Inode) (durability : Durability) :
    Engine δ Mount := do
  if mount.superblock.inodes ≤ number then
    throw (.outOfRange number.toNat mount.superblock.inodes.toNat)
  let address := Inode.address number
  let block ← readBlock .inodeTable address.block
  let changed ← block.splice address.offset inode.encode.bytes
  writeBlock .inodeTable address.block changed.bytes durability
  return if number = rootInode then { mount with root := inode } else mount

end Mount

end BlockFs
