import BlockFs.Word

namespace BlockFs

/-- A slot of a directory's listing.  One whose name begins with a zero byte ends the listing. -/
structure DirEntry where
  inode : UInt32
  /-- Filled up with zeros. -/
  name : Octets nameLength
deriving DecidableEq

namespace DirEntry

def unused : DirEntry := ⟨0, .zero nameLength⟩

variable (entry : DirEntry)

def isUnused : Bool := byteAt entry.name.bytes 0 == 0

def encode : Octets slotSize where
  bytes := packWords [entry.inode] ++ entry.name.bytes
  size_bytes := by simp

/-- Puts the inode number and the name into a buffer of one slot. -/
def encodeInto (buffer : ByteArray) : Except Error ByteArray := do
  let slot ← Octets.ofBuffer slotSize buffer
  let slot ← slot.putWords 0 [entry.inode]
  let slot ← slot.splice 4 entry.name.bytes
  return slot.bytes

def decode (slot : ByteArray) : Except Error DirEntry :=
  if slot.size = slotSize then .ok ⟨wordAt slot 0, .fit nameLength (slot.extract 4 slotSize)⟩
  else .error (.fault (.bufferLength slot.size))

end DirEntry

namespace Listing

def get (block : Block) (slot : Nat) : Except Error DirEntry := do
  DirEntry.decode (← window block.bytes (slot * slotSize) slotSize)

def set (block : Block) (slot : Nat) (entry : DirEntry) : Except Error Block :=
  block.splice (slot * slotSize) entry.encode.bytes

/-- A listing without entries: an unused entry is all zeros. -/
def empty : Block := .zero blockSize

/-- Whether the first slot is unused.  Bytes that are too short for a slot list nothing. -/
def isEmpty (bytes : ByteArray) : Bool :=
  match window bytes 0 slotSize >>= DirEntry.decode with
  | .ok entry => entry.isUnused
  | .error _ => true

end Listing

end BlockFs
