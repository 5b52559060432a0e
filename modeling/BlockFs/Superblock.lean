import BlockFs.Geometry

namespace BlockFs

/-- Eight words at the start of block 0, the rest of which is zero. -/
structure Superblock where
  magic : UInt32
  blocks : UInt32
  inodes : UInt32
  inodeTableBlocks : UInt32
  inodeBitmapBlocks : UInt32
  blockBitmapBlocks : UInt32
  freeInodes : UInt32
  freeBlocks : UInt32
deriving DecidableEq, Repr

namespace Superblock

/-- The superblock of an empty filesystem: the root directory has an inode and a data block. -/
def fresh (geometry : Geometry) : Except Error Superblock := do
  return {
    magic := formatMagic
    blocks := geometry.totalBlocks
    inodes := geometry.totalInodes
    inodeTableBlocks := geometry.inodeTableBlocks
    inodeBitmapBlocks := geometry.inodeBitmapBlocks
    blockBitmapBlocks := geometry.blockBitmapBlocks
    freeInodes := ← predecessor geometry.totalInodes
    freeBlocks := ← predecessor geometry.dataBlocks }

def words (superblock : Superblock) : List UInt32 :=
  [superblock.magic, superblock.blocks, superblock.inodes, superblock.inodeTableBlocks,
    superblock.inodeBitmapBlocks, superblock.blockBitmapBlocks, superblock.freeInodes,
    superblock.freeBlocks]

/-- Block 0 of a filesystem with this superblock. -/
def encode (superblock : Superblock) : Block where
  bytes := packWords superblock.words ++ fill 0 (blockSize - superblockLength)
  size_bytes := by
    simp only [ByteArray.size_append, size_packWords, size_fill]
    rfl

/-- Clears a buffer of one block and puts the words into it. -/
def encodeInto (superblock : Superblock) (buffer : ByteArray) : Except Error ByteArray := do
  let block ← Octets.ofBuffer blockSize buffer
  let block ← block.clear 0
  let block ← block.putWords 0 superblock.words
  return block.bytes

/-- Reads the superblock at the start of a buffer.  The magic number is all that is checked. -/
def decode (buffer : ByteArray) : Except Error Superblock :=
  if buffer.size < superblockLength then .error (.fault (.bufferLength buffer.size))
  else if wordAt buffer 0 ≠ formatMagic then .error (.wrongMagic (wordAt buffer 0))
  else
    .ok {
      magic := wordAt buffer 0
      blocks := wordAt buffer 4
      inodes := wordAt buffer 8
      inodeTableBlocks := wordAt buffer 12
      inodeBitmapBlocks := wordAt buffer 16
      blockBitmapBlocks := wordAt buffer 20
      freeInodes := wordAt buffer 24
      freeBlocks := wordAt buffer 28 }

variable (superblock : Superblock)

/-- Blocks in front of the data blocks. -/
def metadataBlocks : Nat :=
  1 + superblock.inodeTableBlocks.toNat + superblock.inodeBitmapBlocks.toNat +
    superblock.blockBitmapBlocks.toNat

/-- The regions that a superblock records.  It has no data blocks when its metadata fill it. -/
def geometry : Geometry where
  totalBlocks := superblock.blocks
  totalInodes := superblock.inodes
  inodeTableBlocks := superblock.inodeTableBlocks
  inodeBitmapBlocks := superblock.inodeBitmapBlocks
  blockBitmapBlocks := superblock.blockBitmapBlocks
  dataBlocks := .ofNat (superblock.blocks.toNat - superblock.metadataBlocks)

/-- What a mount demands of a superblock beside its magic number: there are data blocks, and the
free counters leave room for the root directory. -/
def validate : Except Error Unit :=
  let dataBlocks := superblock.geometry.dataBlocks
  if dataBlocks = 0 then .error (.outOfRange superblock.metadataBlocks superblock.blocks.toNat)
  else if superblock.inodes ≤ superblock.freeInodes then
    .error (.outOfRange superblock.freeInodes.toNat superblock.inodes.toNat)
  else if dataBlocks ≤ superblock.freeBlocks then
    .error (.outOfRange superblock.freeBlocks.toNat dataBlocks.toNat)
  else .ok ()

def description : String :=
  s!"Superblock \x7b magic: {superblock.magic}, nr_blocks: {superblock.blocks}, " ++
    s!"nr_inodes: {superblock.inodes}, nr_istore_blocks: {superblock.inodeTableBlocks}, " ++
    s!"nr_ifree_blocks: {superblock.inodeBitmapBlocks}, " ++
    s!"nr_bfree_blocks: {superblock.blockBitmapBlocks}, " ++
    s!"nr_free_inodes: {superblock.freeInodes}, nr_free_blocks: {superblock.freeBlocks} \x7d"

end Superblock

end BlockFs
