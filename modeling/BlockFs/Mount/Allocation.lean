import BlockFs.Mount.Basic

namespace BlockFs.Mount

variable (mount : Mount)

def takeInode : Except Error (UInt32 × Mount) := do
  let number ← mount.inodeBitmap.firstFree
  let inodeBitmap ← mount.inodeBitmap.markUsed number
  return (number, { mount with
    inodeBitmap
    superblock := { mount.superblock with freeInodes := saturatingPred mount.superblock.freeInodes }
    generation := mount.generation + 1 })

/-- Gives an inode back; nothing when it is free already.  The root directory keeps its inode. -/
def freeInode (number : UInt32) : Except Error (Option Mount) := do
  if number = rootInode then
    throw (.outOfRange number.toNat mount.superblock.inodes.toNat)
  if ← mount.inodeBitmap.test number then return none
  let inodeBitmap ← mount.inodeBitmap.markFree number
  return some { mount with
    inodeBitmap
    superblock := { mount.superblock with freeInodes := saturatingSucc mount.superblock.freeInodes }
    generation := mount.generation + 1 }

def takeBlock : Except Error (UInt32 × Mount) := do
  let number ← mount.blockBitmap.firstFree
  let blockBitmap ← mount.blockBitmap.markUsed number
  return (number, { mount with
    blockBitmap
    superblock := { mount.superblock with freeBlocks := saturatingPred mount.superblock.freeBlocks }
    generation := mount.generation + 1 })

/-- Gives a block back; nothing when it is free already.  Reserved blocks are kept. -/
def freeBlock (number : UInt32) : Except Error (Option Mount) := do
  if number < (← mount.geometry.reservedBlocks) then
    throw (.outOfRange number.toNat mount.superblock.blocks.toNat)
  if ← mount.blockBitmap.test number then return none
  let blockBitmap ← mount.blockBitmap.markFree number
  return some { mount with
    blockBitmap
    superblock := { mount.superblock with freeBlocks := saturatingSucc mount.superblock.freeBlocks }
    generation := mount.generation + 1 }

end BlockFs.Mount
