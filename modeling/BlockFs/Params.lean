/-!
Sizes and fixed values of the on-disk format.

A device is a row of blocks.  Block 0 holds the superblock; the inode table, the two free-space
bitmaps and the data blocks follow it in this order.
-/

namespace BlockFs

/-- The first word of every superblock. -/
def formatMagic : UInt32 := 0xDEADCE11

abbrev blockSize : Nat := 4096

/-- Units that one block of a free-space bitmap tracks. -/
abbrev bitsPerBlock : Nat := 8 * blockSize

def superblockBlock : UInt32 := 0

/-- Bytes of the superblock's eight words. -/
abbrev superblockLength : Nat := 8 * 4

def rootInode : UInt32 := 0

/-- A device is formatted only when it holds more blocks than this. -/
def minBlocks : Nat := 100

abbrev payloadLength : Nat := 32

/-- Bytes of an inode record: nine words and the payload. -/
abbrev inodeSize : Nat := 9 * 4 + payloadLength

abbrev inodesPerBlock : Nat := blockSize / inodeSize

abbrev nameLength : Nat := 255

/-- Bytes of a directory slot: an inode number and a name. -/
abbrev slotSize : Nat := 4 + nameLength

abbrev slotsPerBlock : Nat := blockSize / slotSize

namespace FileMode

/-- The bits of a mode that hold the file type. -/
def typeMask : UInt32 := 0o170000

def directory : UInt32 := 0o040000

def regular : UInt32 := 0o100000

def symlink : UInt32 := 0o120000

/-- The root directory is one that all may search and its owner may change. -/
def root : UInt32 := directory ||| 0o755

end FileMode

end BlockFs
