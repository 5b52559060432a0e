import BlockFs.Word

/-!
How a device is divided into regions.

`Geometry.ofSize` plans the regions of a device of a given size.  The starts of the regions are
checked sums, so that they are defined for every geometry and fault on those that no device has.
-/

namespace BlockFs

/-- Blocks that hold `units` units when each block holds `perBlock`. -/
def blocksFor (units perBlock : Nat) : Nat :=
  (units + (perBlock - 1)) / perBlock

/-- The length of every region, in blocks, and the number of inodes. -/
structure Geometry where
  totalBlocks : UInt32
  totalInodes : UInt32
  inodeTableBlocks : UInt32
  inodeBitmapBlocks : UInt32
  blockBitmapBlocks : UInt32
  dataBlocks : UInt32
deriving DecidableEq, Repr

namespace Geometry

/-- Plans the regions of a device; a partial block at its end is left out.  The inode table is
filled with whole blocks of inodes, at least one inode for each block of the device. -/
def ofSize (bytes : Nat) : Except Error Geometry :=
  let blocks := bytes / blockSize
  let tableBlocks := blocksFor blocks inodesPerBlock
  let inodes := tableBlocks * inodesPerBlock
  let inodeBitmapBlocks := blocksFor inodes bitsPerBlock
  let blockBitmapBlocks := blocksFor blocks bitsPerBlock
  let metadata := 1 + tableBlocks + inodeBitmapBlocks + blockBitmapBlocks
  if blocks ≤ minBlocks ∨ UInt32.size ≤ blocks ∨ blocks ≤ metadata ∨ UInt32.size ≤ inodes then
    .error (.tooSmall blocks)
  else
    .ok {
      totalBlocks := .ofNat blocks
      totalInodes := .ofNat inodes
      inodeTableBlocks := .ofNat tableBlocks
      inodeBitmapBlocks := .ofNat inodeBitmapBlocks
      blockBitmapBlocks := .ofNat blockBitmapBlocks
      dataBlocks := .ofNat (blocks - metadata) }

variable (geometry : Geometry)

def inodeTableStart : UInt32 := superblockBlock + 1

def inodeBitmapStart : Except Error UInt32 :=
  narrow (inodeTableStart.toNat + geometry.inodeTableBlocks.toNat)

def blockBitmapStart : Except Error UInt32 := do
  narrow ((← geometry.inodeBitmapStart).toNat + geometry.inodeBitmapBlocks.toNat)

/-- The first data block, which holds the root directory's listing. -/
def dataStart : Except Error UInt32 := do
  narrow ((← geometry.blockBitmapStart).toNat + geometry.blockBitmapBlocks.toNat)

/-- Blocks that are never given back: the metadata and the root directory's listing. -/
def reservedBlocks : Except Error UInt32 := do
  narrow ((← geometry.dataStart).toNat + 1)

end Geometry

end BlockFs
