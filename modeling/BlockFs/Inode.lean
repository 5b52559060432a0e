import BlockFs.Word

/-!
Inode records and their places in the inode table.

A record is nine words and a payload.  Which kind of payload it holds is not stored: a short
symbolic link keeps its target there, all else a block number.
-/

namespace BlockFs

inductive Payload where
  /-- A data block, or a block that lists data blocks. -/
  | block (number : UInt32)
  | inlined (target : Octets payloadLength)
deriving DecidableEq

namespace Payload

def encode : Payload → Octets payloadLength
  | .block number => {
      bytes := packWords [number] ++ fill 0 (payloadLength - 4)
      size_bytes := by simp only [ByteArray.size_append, size_packWords, size_fill]; rfl }
  | .inlined target => target

/-- Puts a payload in place of the bytes from `offset` on. -/
def put {n : Nat} (record : Octets n) (offset : Nat) : Payload → Except Error (Octets n)
  | .block number => record.putWords offset [number]
  | .inlined target => record.splice offset target.bytes

end Payload

structure Inode where
  mode : UInt32
  uid : UInt32
  gid : UInt32
  size : UInt32
  ctime : UInt32
  atime : UInt32
  mtime : UInt32
  blocks : UInt32
  nlink : UInt32
  payload : Payload
deriving DecidableEq

namespace Inode

/-- The root directory of an empty filesystem, with one block for its listing. -/
def root (listing : UInt32) : Inode where
  mode := FileMode.root
  uid := 0
  gid := 0
  size := .ofNat blockSize
  ctime := 0
  atime := 0
  mtime := 0
  blocks := 1
  nlink := 2
  payload := .block listing

/-- Whether a record of this mode and size keeps its target in the payload. -/
def storesInline (mode size : UInt32) : Bool :=
  mode &&& FileMode.typeMask == FileMode.symlink && decide (size.toNat ≤ payloadLength)

variable (inode : Inode)

def isDirectory : Bool :=
  inode.mode &&& FileMode.typeMask == FileMode.directory

def isSymlink : Bool :=
  inode.mode &&& FileMode.typeMask == FileMode.symlink

def block? : Option UInt32 :=
  match inode.payload with
  | .block number => some number
  | .inlined _ => none

/-- The part of an inlined payload that the size covers. -/
def inlineData? : Option ByteArray :=
  match inode.payload with
  | .block _ => none
  | .inlined target => some (target.bytes.extract 0 (min inode.size.toNat payloadLength))

def words : List UInt32 :=
  [inode.mode, inode.uid, inode.gid, inode.size, inode.ctime, inode.atime, inode.mtime,
    inode.blocks, inode.nlink]

abbrev payloadOffset : Nat := 9 * 4

def encode : Octets inodeSize where
  bytes := packWords inode.words ++ inode.payload.encode.bytes
  size_bytes := by simp [words]

/-- Puts the words and the payload into a buffer of one record. -/
def encodeInto (buffer : ByteArray) : Except Error ByteArray := do
  let record ← Octets.ofBuffer inodeSize buffer
  let record ← record.putWords 0 inode.words
  let record ← record.clear payloadOffset
  let record ← inode.payload.put record payloadOffset
  return record.bytes

/-- The payload of a record whose mode and size are known. -/
def decodePayload (mode size : UInt32) (record : ByteArray) : Payload :=
  if storesInline mode size then
    .inlined (.fit payloadLength (record.extract payloadOffset inodeSize))
  else .block (wordAt record payloadOffset)

def decode (record : ByteArray) : Except Error Inode :=
  if record.size = inodeSize then
    .ok {
      mode := wordAt record 0
      uid := wordAt record 4
      gid := wordAt record 8
      size := wordAt record 12
      ctime := wordAt record 16
      atime := wordAt record 20
      mtime := wordAt record 24
      blocks := wordAt record 28
      nlink := wordAt record 32
      payload := decodePayload (wordAt record 0) (wordAt record 12) record }
  else .error (.fault (.bufferLength record.size))

/-- The place of a record: a block of the device and the bytes in front of it in that block. -/
structure Address where
  block : UInt32
  offset : Nat
deriving DecidableEq, Repr

/-- Records fill the inode table in the order of their numbers. -/
def address (number : UInt32) : Address where
  block := .ofNat (1 + number.toNat / inodesPerBlock)
  offset := number.toNat % inodesPerBlock * inodeSize

end Inode

end BlockFs
