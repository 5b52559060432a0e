import BlockFs.Bitmap.Basic
import BlockFs.Directory
import BlockFs.Engine
import BlockFs.Inode

/-!
Laying out an empty filesystem.

Blocks are written back in the order of the device, each region before the next, up to the root
directory's listing; then the device is flushed.  The first failure ends the work.
-/

namespace BlockFs.Format

open Engine

variable {δ : Type} [BlockDevice δ]

def writeSuperblock (superblock : Superblock) : Engine δ Unit := do
  report (.writingSuperblock superblock)
  writeBlock .superblock superblockBlock superblock.encode.bytes .writeBack

/-- Blocks of an inode table that holds the root directory alone. -/
def inodeTable (geometry : Geometry) : Except Error (List Block) := do
  let address := Inode.address rootInode
  let root := Inode.root (← geometry.dataStart)
  let first ← (Octets.zero blockSize).splice address.offset root.encode.bytes
  let index ← narrow (address.block.toNat - Geometry.inodeTableStart.toNat)
  return (List.replicate geometry.inodeTableBlocks.toNat (.zero blockSize)).set index.toNat first

def writeInodeTable (geometry : Geometry) : Engine δ Unit := do
  reserve (geometry.inodeTableBlocks.toNat * blockSize)
  let table ← inodeTable geometry
  report (.writingInodeTable geometry.inodeTableBlocks)
  writeBlocks .inodeTable Geometry.inodeTableStart .writeBack 0 table

def writeInodeBitmap (geometry : Geometry) : Engine δ Unit := do
  let bitmap ←
    Bitmap.fresh (← get).bufferLimit geometry.inodeBitmapBlocks geometry.totalInodes 1
  report (.writingInodeBitmap geometry.inodeBitmapBlocks)
  writeSpan .inodeBitmap (← geometry.inodeBitmapStart) bitmap.bytes .writeBack

def writeBlockBitmap (geometry : Geometry) : Engine δ Unit := do
  let reserved ← geometry.reservedBlocks
  let bitmap ←
    Bitmap.fresh (← get).bufferLimit geometry.blockBitmapBlocks geometry.totalBlocks reserved
  report (.writingBlockBitmap geometry.blockBitmapBlocks reserved)
  writeSpan .blockBitmap (← geometry.blockBitmapStart) bitmap.bytes .writeBack

def writeListing (geometry : Geometry) : Engine δ Unit := do
  let block ← geometry.dataStart
  report (.writingListing block)
  writeBlock .dataBlocks block Listing.empty.bytes .writeBack

end Format

open Engine Format in
/-- Formats the device and answers the superblock it wrote. -/
def format {δ : Type} [BlockDevice δ] : Engine δ Superblock := do
  let geometry ← Geometry.ofSize (BlockDevice.byteSize (← get).device)
  report (.formatting geometry (← geometry.dataStart))
  let superblock ← Superblock.fresh geometry
  writeSuperblock superblock
  writeInodeTable geometry
  writeInodeBitmap geometry
  writeBlockBitmap geometry
  writeListing geometry
  call .dataBlocks BlockDevice.flush
  report (.formatted superblock)
  return superblock

end BlockFs
