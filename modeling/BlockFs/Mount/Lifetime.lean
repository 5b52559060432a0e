import BlockFs.Mount.InodeTable

/-!
From mounting a device to letting it go.

`mount` accepts a device whose superblock is valid and whose bitmaps and first inode can be read.
`Mount.sync` writes the superblock and both bitmaps back.  A mount ends by `Mount.unmount`, which
always syncs, or by `Mount.drop`, which syncs what is dirty and never fails.
-/

namespace BlockFs

open Engine

variable {δ : Type} [BlockDevice δ]

def loadBitmap (region : Region) (start blocks length : UInt32) : Engine δ Bitmap := do
  Bitmap.load (← readSpan region start blocks) length

def mount : Engine δ Mount := do
  let block ← readBlock .superblock superblockBlock
  let superblock ← Superblock.decode block.bytes
  superblock.validate
  report (.mounting superblock)
  let geometry := superblock.geometry
  let inodeBitmap ← loadBitmap .inodeBitmap (← geometry.inodeBitmapStart)
    superblock.inodeBitmapBlocks superblock.inodes
  let blockBitmap ← loadBitmap .blockBitmap (← geometry.blockBitmapStart)
    superblock.blockBitmapBlocks superblock.blocks
  let root ← superblock.readInode rootInode
  report (.mounted superblock)
  return { superblock, inodeBitmap, blockBitmap, root }

namespace Mount

def sync (mount : Mount) (durability : Durability) : Engine δ Mount := do
  report (.syncing mount.generation durability)
  writeBlock .superblock superblockBlock mount.superblock.encode.bytes durability
  writeSpan .inodeBitmap (← mount.geometry.inodeBitmapStart) mount.inodeBitmap.bytes durability
  writeSpan .blockBitmap (← mount.geometry.blockBitmapStart) mount.blockBitmap.bytes durability
  return mount.markSynced mount.generation

def unmount (mount : Mount) : Engine δ Unit := do
  let _ ← mount.sync .writeThrough
  report .unmounted

def drop (mount : Mount) : Engine δ Unit := do
  if mount.isDirty then
    try
      let _ ← mount.sync .writeThrough
    catch error => report (.lostChanges error)

end Mount

end BlockFs
