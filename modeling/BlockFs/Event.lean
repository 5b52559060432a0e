import BlockFs.Device.Basic
import BlockFs.Superblock

namespace BlockFs

inductive Level where
  | error
  | warn
  | info
  | debug
  | trace
deriving DecidableEq, Repr

namespace Level

def name : Level → String
  | .error => "error"
  | .warn => "warn"
  | .info => "info"
  | .debug => "debug"
  | .trace => "trace"

def detail : Level → Nat
  | .error => 1
  | .warn => 2
  | .info => 3
  | .debug => 4
  | .trace => 5

/-- Whether a reader who asked for `wanted` sees reports of this level. -/
def visibleAt (level wanted : Level) : Bool :=
  level.detail ≤ wanted.detail

end Level

inductive Event where
  | formatting (geometry : Geometry) (dataStart : UInt32)
  | writingSuperblock (superblock : Superblock)
  | writingInodeTable (blocks : UInt32)
  | writingInodeBitmap (blocks : UInt32)
  | writingBlockBitmap (blocks reserved : UInt32)
  | writingListing (block : UInt32)
  | formatted (superblock : Superblock)
  | mounting (superblock : Superblock)
  | mounted (superblock : Superblock)
  | syncing (generation : Nat) (durability : Durability)
  | unmounted
  | tookInode (number : UInt32)
  | freedInode (number : UInt32)
  | tookBlock (number : UInt32)
  | freedBlock (number : UInt32)
  /-- The last sync of a mount that was let go failed. -/
  | lostChanges (error : Error)
deriving DecidableEq, Repr

namespace Event

def level : Event → Level
  | .formatting .. | .formatted _ | .mounted _ | .unmounted => .info
  | .writingSuperblock _ | .writingInodeTable _ | .writingInodeBitmap _ | .writingBlockBitmap ..
  | .writingListing _ | .mounting _ | .syncing .. => .debug
  | .tookInode _ | .freedInode _ | .tookBlock _ | .freedBlock _ => .trace
  | .lostChanges _ => .warn

def message : Event → String
  | .formatting geometry dataStart =>
      s!"format: {geometry.totalBlocks} blocks, {geometry.totalInodes} inodes, " ++
        s!"data starts at block {dataStart}"
  | .writingSuperblock superblock => s!"format: writing superblock {superblock.description}"
  | .writingInodeTable blocks => s!"format: writing inode table, {blocks} blocks"
  | .writingInodeBitmap blocks => s!"format: writing inode bitmap, {blocks} blocks"
  | .writingBlockBitmap blocks reserved =>
      s!"format: writing block bitmap, {blocks} blocks, first {reserved} marked used"
  | .writingListing block => s!"format: writing empty root listing at block {block}"
  | .formatted superblock =>
      s!"format: done, {superblock.freeInodes} free inodes, {superblock.freeBlocks} free blocks"
  | .mounting superblock => s!"mount: superblock {superblock.description}"
  | .mounted superblock =>
      s!"mount: {superblock.blocks} blocks ({superblock.freeBlocks} free), " ++
        s!"{superblock.inodes} inodes ({superblock.freeInodes} free)"
  | .syncing generation durability => s!"sync: generation {generation} ({durability.name})"
  | .unmounted => "unmount: metadata flushed"
  | .tookInode number => s!"alloc_inode: {number}"
  | .freedInode number => s!"free_inode: {number}"
  | .tookBlock number => s!"alloc_block: {number}"
  | .freedBlock number => s!"free_block: {number}"
  | .lostChanges error => s!"dropping mounted filesystem with unsynced metadata: {error.message}"

end Event

end BlockFs
